import WalletTools.Proofs.Node.Settings
import WalletTools.Transfer.Options

/-! How the options of a transfer are resolved: each setting is what the command line gives, or else what
the settings file gives, or else the standard one. A settings file that is named has to be in order, even
where nothing is taken from it. -/
namespace WalletTools.Transfer

open Json (Document ObjectText)
open Node (Settings)
open Node.Settings (Provided Spoiled)

/-- What the settings file of options provides: nothing if none is named. -/
inductive Options.Provides (options : Options) (read : String → File) : Provided → Prop
  | unnamed (unnamed : options.settingsFile? = none) : options.Provides read ⟨none, none, none, none⟩
  | named (named : options.settingsFile? = some path) (given : read path = .ok (Text.Utf8.encode text))
      (object : ObjectText members text) (provides : provided.By members) :
      options.Provides read provided

/-- A file that is no text. -/
def NoText (file : File) : Prop := ∀ text, file ≠ .ok (Text.Utf8.encode text)

/-- A file that is text and no settings: it is no JSON, or an object that repeats a known member or gives
it a value of another kind. -/
inductive NoSettings (file : File) : Prop
  | malformed (given : file = .ok (Text.Utf8.encode text)) (malformed : ¬ Document text) : NoSettings file
  | spoiled (given : file = .ok (Text.Utf8.encode text)) (object : ObjectText members text)
      (spoiled : Spoiled members) : NoSettings file

/-- Each setting is chosen from the options, the settings file and the standard settings in this order,
and the transfer is the one that the options tell. -/
structure Merged (options : Options) (provided : Provided) (plan : Plan) : Prop where
  address : plan.node.address =
    (options.address? <|> provided.address?).getD Settings.standard.address
  token : plan.node.token = (options.token? <|> provided.token?).getD Settings.standard.token
  waitRounds : plan.node.waitRounds =
    (options.waitRounds? <|> provided.waitRounds?).getD Settings.standard.waitRounds
  validityRounds : plan.node.validityRounds =
    provided.validityRounds?.getD Settings.standard.validityRounds
  waited : plan.request.waitRounds = plan.node.waitRounds
  valid : plan.request.validityRounds = plan.node.validityRounds
  senderMnemonic : plan.request.senderMnemonic = options.senderMnemonic
  receiver : plan.request.receiver = options.receiver
  amount : plan.request.amount = options.amount

namespace Options

variable {options : Options} {read : String → File}

/-- The plan of options over settings. -/
def planOver (options : Options) (base : Settings) : Plan :=
  let node : Settings := { base with
    address := options.address?.getD base.address
    token := options.token?.getD base.token
    waitRounds := options.waitRounds?.getD base.waitRounds }
  ⟨node, ⟨options.senderMnemonic, options.receiver, options.amount, node.waitRounds, node.validityRounds⟩⟩

theorem resolve_of_unnamed (unnamed : options.settingsFile? = none) :
    options.resolve read = .ok (options.planOver .standard) := by
  unfold resolve
  rw [unnamed]
  rfl

theorem resolve_of_named {path : String} (named : options.settingsFile? = some path) :
    options.resolve read = options.planOver <$> Settings.ofFile path (read path) := by
  unfold resolve
  rw [named, map_eq_pure_bind]
  rfl

theorem merged_planOver (options : Options) (provided : Provided) :
    Merged options provided (options.planOver provided.settings) := by
  have chosen {α : Type} (option? provided? : Option α) (standard : α) :
      option?.getD (provided?.getD standard) = (option? <|> provided?).getD standard := by
    cases option? <;> rfl
  exact ⟨chosen .., chosen .., chosen .., rfl, rfl, rfl, rfl, rfl, rfl⟩

/-- Options are resolved field by field over what their settings file provides; a file that is named and
is not in order is refused, whatever the other options are. -/
theorem resolve_precedence (options : Options) (read : String → File) :
    (∀ provided, options.Provides read provided →
      ∃ plan, options.resolve read = .ok plan ∧ Merged options provided plan) ∧
    ∀ path, options.settingsFile? = some path →
      (NoText (read path) → ∃ fault, options.resolve read = .error (.file path fault)) ∧
      (NoSettings (read path) → ∃ fault, options.resolve read = .error (.json path fault)) := by
  refine ⟨fun provided provides => ?_, fun path named => ?_⟩
  · cases provides with
    | unnamed unnamed =>
      exact ⟨_, resolve_of_unnamed unnamed, merged_planOver options ⟨none, none, none, none⟩⟩
    | named named given object provides =>
      refine ⟨_, ?_, merged_planOver options provided⟩
      rw [resolve_of_named named, given, Settings.ofFile_of_provides object provides]
      rfl
  · rw [resolve_of_named named]
    refine ⟨fun unreadable => ?_, fun refused => ?_⟩
    · obtain ⟨fault, failed⟩ := Settings.ofFile_of_unreadable unreadable
      exact ⟨fault, by rw [failed]; rfl⟩
    · cases refused with
      | malformed given malformed =>
        obtain ⟨fault, failed⟩ := Settings.ofFile_of_not_document malformed
        exact ⟨fault, by rw [given, failed]; rfl⟩
      | spoiled given object spoiled =>
        obtain ⟨fault, failed⟩ := Settings.ofFile_of_spoiled object spoiled
        exact ⟨fault, by rw [given, failed]; rfl⟩

/-- What is given explicitly counts even where it is zero or empty. -/
theorem resolve_precedence_zero : ∃ plan,
    Options.resolve ⟨none, none, "", "", 1, some "node.json", some 0⟩
      (fun _ => .ok (Text.Utf8.encode "\x7b\"token\":\"\",\"wait_rounds\":7\x7d")) = .ok plan ∧
    plan.node.token = "" ∧ plan.node.waitRounds = 0 := by
  have empty : Json.Kind.text.Writes "" ['"', '"'] := Json.Kind.writes_chars .text ""
  have seven : Json.Kind.count.Writes (7 : UInt64) ['7'] := Json.Kind.writes_chars .count (7 : UInt64)
  have object : ObjectText [("token", ['"', '"']), ("wait_rounds", ['7'])]
      "\x7b\"token\":\"\",\"wait_rounds\":7\x7d" := Json.objectText_enclose _
    (List.forall_mem_cons.mpr ⟨empty.passed, List.forall_mem_cons.mpr ⟨seven.passed, nofun⟩⟩)
  have provides : (⟨none, some "", some 7, none⟩ : Provided).By
      [("token", ['"', '"']), ("wait_rounds", ['7'])] :=
    ⟨.nothing, .given empty, .given seven, .nothing⟩
  obtain ⟨plan, resolved, merged⟩ := (resolve_precedence ⟨none, none, "", "", 1, some "node.json", some 0⟩
    fun _ => .ok (Text.Utf8.encode "\x7b\"token\":\"\",\"wait_rounds\":7\x7d")).1 _
    (.named rfl rfl object provides)
  exact ⟨plan, resolved, merged.token, merged.waitRounds⟩

end Options

end WalletTools.Transfer
