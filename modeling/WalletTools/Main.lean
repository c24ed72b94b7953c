import Std.Async.DNS
import Std.Async.TCP
import WalletTools.Node.Wire
import WalletTools.Store.Open
import WalletTools.Tools.Run

/-! The tools as a program: the first argument names the tool and the others are its command line.
Files, connections and the output are met here only. -/
namespace WalletTools.Program

open Std.Async Std.Net

/-- What reading a file gives. -/
def readFile (path : String) : IO File := do
  try
    return .ok (← IO.FS.readBinFile path).toList
  catch
    | .noFileOrDirectory .. => return .error .missing
    | .inappropriateType .. => return .error .directory
    | fault => return .error (.other (toString fault))

/-- Makes an empty file; tells whether that works. -/
def createFile (path : String) : IO Bool := do
  try
    IO.FS.writeBinFile path .empty
    return true
  catch _ => return false

/-- The addresses of a host. -/
def addressesOf : Url.Host → IO (List IPAddr)
  | .ipv4 address =>
    let part (place : Nat) : UInt8 := UInt8.ofNat (address / 256 ^ place)
    return [.v4 (.ofParts (part 3) (part 2) (part 1) (part 0))]
  | .ipv6 pieces =>
    return [.v6 ⟨Vector.ofFn fun place : Fin 8 => UInt16.ofNat (pieces.getD place.val 0)⟩]
  | host => return (← (DNS.getAddrInfo (Node.hostText host) "" none).block).toList

/-- Takes bytes from a connection until they are a whole reply. -/
partial def receive (socket : TCP.Socket.Client) (received : Bytes) : IO Node.Reply := do
  let more? ← (socket.recv? 65536).block
  let received := received ++ (more?.map ByteArray.toList).getD []
  match Node.Reply.ofBytes? more?.isNone received.length received with
  | some reply => return reply
  | none => if more?.isNone then return .dropped else receive socket received

/-- Asks a node on a connection of its own. Nodes that want their connections encrypted are out of
reach. -/
def ask (request : Node.Request) : IO Node.Reply := do
  let some host := request.url.host? | return .dropped
  if request.url.scheme ≠ "http" then return .dropped
  try
    let some address := (← addressesOf host).head? | return .dropped
    let port := UInt16.ofNat (request.url.port?.getD 80)
    let socket ← TCP.Socket.Client.mk
    (socket.connect (match address with
      | .v4 address => .v4 ⟨address, port⟩
      | .v6 address => .v6 ⟨address, port⟩)).block
    (socket.send ⟨request.bytes.toArray⟩).block
    receive socket []
  catch _ => return .dropped

/-- Runs a program against the nodes that its requests name. -/
def converse {α : Type} : Node.Dialogue α → IO α
  | .done result => return result
  | .ask request next => do converse (next (← ask request))

/-- Runs a tool; gives its exit code. -/
def run (tool : Tools.Tool) (arguments : List String) : IO UInt32 := do
  let output ← IO.getStdout
  let created ← match tool.target? arguments with
    | some path => createFile path
    | none => pure false
  let files ← (tool.sources arguments).mapM fun path => return (path, ← readFile path)
  let read (path : String) : File := (files.lookup path).getD (.error .missing)
  let outcome ← converse (tool.run
    { read
      openStore := fun path => Store.openFile path (read path)
      canCreate := fun _ => created
      color := ← output.isTty }
    arguments)
  output.write ⟨outcome.output.toArray⟩
  output.flush
  match outcome.file? with
  | some (path, bytes) => IO.FS.writeBinFile path ⟨bytes.toArray⟩
  | none => pure ()
  return UInt32.ofNat outcome.exitCode

end WalletTools.Program

def main (arguments : List String) : IO UInt32 := do
  match arguments with
  | name :: rest =>
    match WalletTools.Tools.Tool.ofName? name with
    | some tool => WalletTools.Program.run tool rest
    | none => return 1
  | [] => return 1
