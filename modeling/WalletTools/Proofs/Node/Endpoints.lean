import WalletTools.Proofs.Encoding.Base32
import WalletTools.Proofs.Node.Session
import WalletTools.Proofs.Url.Address

/-! The paths that a client asks for. An endpoint is appended to the text of the address, not to the path of
its URL; which addresses lead to the same path in both ways is told exactly. -/
namespace WalletTools.Node

/-! ## Endpoints -/

/-- The text stands in a path as it is. -/
def IsPlain (text : String) : Prop := text.toList ⊆ Url.plainChars

instance (text : String) : Decidable (IsPlain text) :=
  inferInstanceAs (Decidable (text.toList ⊆ Url.plainChars))

theorem IsPlain.append {front back : String} (first : IsPlain front) (later : IsPlain back) :
    IsPlain (front ++ back) := by
  unfold IsPlain
  rw [String.toList_append]
  exact List.append_subset.mpr ⟨first, later⟩

private theorem digit_plain : ∀ code < 58, 48 ≤ code → Char.ofNat code ∈ Url.plainChars := by
  decide

theorem isPlain_toString (number : Nat) : IsPlain (toString number) := by
  intro char member
  change char ∈ (String.ofList (Nat.toDigits 10 number)).toList at member
  rw [String.toList_ofList] at member
  have digit := Nat.isDigit_of_mem_toDigits (by decide) (by decide) member
  unfold Char.isDigit at digit
  obtain ⟨least, most⟩ := Bool.and_eq_true_iff.mp digit
  rw [← Char.ofNat_toNat char]
  exact digit_plain char.toNat (Nat.lt_succ_of_le (of_decide_eq_true most)) (of_decide_eq_true least)

theorem isPlain_encode (bytes : Bytes) : IsPlain (Base32.encode bytes) := by
  have listed : Base32.alphabet ⊆ Url.plainChars := by decide
  exact fun char member => listed (Base32.mem_alphabet_of_mem_encode member)

/-- Endpoints are plain, those with identifiers as long as these are of transactions. -/
theorem Errand.isPlain {errand : Errand}
    (identified : ∀ id, errand = .pending id → ∃ transaction : Ledger.Transaction, id = transaction.id) :
    IsPlain errand.endpoint := by
  cases errand with
  | status => decide
  | statusAfter round =>
    have front : IsPlain "/v2/status/wait-for-block-after/" := by decide
    exact front.append (isPlain_toString round)
  | account address =>
    have front : IsPlain "/v2/accounts/" := by decide
    exact front.append (isPlain_encode _)
  | params => decide
  | submit signed =>
    have path : IsPlain "/v2/transactions" := by decide
    exact path
  | pending id =>
    obtain ⟨transaction, rfl⟩ := identified id rfl
    have front : IsPlain "/v2/transactions/pending/" := by decide
    exact front.append (isPlain_encode _)

/-! ## Paths -/

/-- Whether endpoints may be appended to an address. What stands behind its authority in front of them holds
no mark of a query or a fragment and ends in no blanks, and its last directory has a name. -/
structure IsFront (address : String) : Prop where
  path : Url.IsPathText (Url.keptPath (trimSlashes address))
  ended : Url.keptPath (trimSlashes address) = [] ∨ Url.trailingBlanks address = []
  named : (Url.directories (Url.keptPath (trimSlashes address))).getLast? ≠ some []

theorem toList_trimSlashes (text : String) : (trimSlashes text).toList = Url.trimmed text.toList :=
  String.toList_ofList

/-- Nothing but slashes is trimmed. -/
theorem exists_slashes (address : String) :
    ∃ count, address.toList = (trimSlashes address).toList ++ List.replicate count '/' := by
  have whole := List.rdropWhile_append_rtakeWhile (p := fun char : Char => decide (char = '/'))
    (l := address.toList)
  have slashes : address.toList.rtakeWhile (fun char => decide (char = '/')) = List.replicate _ '/' :=
    List.eq_replicate_of_mem fun char member =>
      of_decide_eq_true (List.mem_rtakeWhile_imp (p := fun char : Char => decide (char = '/')) member)
  rw [slashes] at whole
  rw [toList_trimSlashes]
  exact ⟨_, whole.symm⟩

section

variable {client : Client} {query : Query} {log : List Exchange}

/-- What a call asks for is the request of its errand. -/
theorem requestOf?_of_mem {outcome : Except Error query.Answer} {exchange : Exchange}
    (asked : Conversation (query.call client).run log outcome) (member : exchange ∈ log) :
    client.requestOf? query.errand = some exchange.request := by
  rw [query.call_eq_perform] at asked
  by_cases able : client.CanSend
  · obtain ⟨_, sent, reply, rfl, _⟩ := (Client.follows_perform able query.errand log outcome).mp asked
    obtain ⟨visit, listed, requested, _⟩ := sent.exists_visit member
    cases List.mem_singleton.mp listed
    exact requested
  · rw [Client.run_perform_of_unable able, conversation_done_iff] at asked
    rw [asked.1] at member
    cases member

theorem base_of_ofAddress {address token : String} (accepted : Client.ofAddress address token = .ok client) :
    client.base = trimSlashes address := by
  unfold Client.ofAddress at accepted
  split at accepted
  · cases accepted
  · split at accepted
    · cases accepted
      rfl
    · cases accepted

/-- A call asks for the path of the address without the slashes at its end and the endpoint behind it just
where the address is a front of endpoints. -/
theorem request_path_iff {address token : String} {url : Url} {outcome : Except Error query.Answer}
    {exchange : Exchange} (accepted : Client.ofAddress address token = .ok client)
    (parsed : Url.parse address = .ok url) (web : url.scheme = "http")
    (identified : ∀ id, query = .pendingTransaction id →
      ∃ transaction : Ledger.Transaction, id = transaction.id)
    (asked : Conversation (query.call client).run log outcome) (member : exchange ∈ log) :
    exchange.request.path = trimSlashes (String.ofList url.path.text) ++ query.errand.endpoint ↔
      IsFront address := by
  obtain ⟨other, joined, also, _, same⟩ := Client.request?_eq_some_iff.mp (requestOf?_of_mem asked member)
  obtain ⟨count, slashes⟩ := exists_slashes address
  obtain ⟨rest, written⟩ := query.errand.isEndpoint
  have plain : IsPlain query.errand.endpoint := Errand.isPlain fun id same => by
    cases query <;> cases same
    exact identified id rfl
  have network : Url.SchemeKind.of other.scheme = .network := by
    rcases also with also | also <;> rw [also] <;> decide
  have endpoint : query.errand.endpoint = String.ofList ('/' :: 'v' :: '2' :: '/' :: rest) := by
    rw [← written, String.ofList_toList]
  have ordinary : ∀ char ∈ 'v' :: '2' :: '/' :: rest, char ∈ Url.plainChars := fun char member =>
    plain (written ▸ List.mem_cons_of_mem _ member)
  rw [base_of_ofAddress accepted, endpoint] at joined
  obtain ⟨before, path, otherPath, kept⟩ :=
    Url.paths_of_parse slashes parsed (by rw [web]; decide) ordinary joined network
  have iff := Url.joined_iff count Url.isRooted_behindAuthority
    (fun char => Url.isMargin_of_mem_trailingBlanks) ordinary ⟨'v', List.mem_cons_self, by decide⟩ kept
  rw [← path, ← otherPath] at iff
  have texts : exchange.request.path = trimSlashes (String.ofList url.path.text) ++ query.errand.endpoint ↔
      other.path.text = Url.trimmed url.path.text ++ '/' :: 'v' :: '2' :: '/' :: rest := by
    rw [same, ← String.toList_inj, String.toList_append, toList_trimSlashes, String.toList_ofList, written]
    exact Eq.congr_left String.toList_ofList
  rw [texts, iff]
  exact ⟨fun given => ⟨given.1, given.2.1, given.2.2⟩, fun given => ⟨given.1, given.2, given.3⟩⟩

/-- A call that asks for the path of an address with a slash at its end, and its endpoint. -/
theorem request_path_base : ∃ client request outcome,
    Client.ofAddress "http://[::1]:8022/base/" "token" = .ok client ∧
      Conversation ((Query.pendingTransaction Ledger.Transaction.blank.id).call client).run
        [⟨request, .dropped⟩] outcome ∧
      request.path = "/base" ++ (Errand.pending Ledger.Transaction.blank.id).endpoint := by
  have parsed : Url.parse "http://[::1]:8022/base/" = .ok ⟨"http", some (.ipv6 [0, 0, 0, 0, 0, 0, 0, 1]),
      some 8022, .rooted ["base".toList, []], none, none⟩ := by decide +kernel
  have accepted : Client.ofAddress "http://[::1]:8022/base/" "token" =
      .ok ⟨trimSlashes "http://[::1]:8022/base/", "token"⟩ := by
    rw [Client.ofAddress, parsed]
    rfl
  have front : IsFront "http://[::1]:8022/base/" :=
    ⟨List.all_iff_forall_prop.mp (by decide +kernel), by decide +kernel, by decide +kernel⟩
  have able : Client.CanSend ⟨trimSlashes "http://[::1]:8022/base/", "token"⟩ :=
    ⟨⟨"http", "//[::1]:8022/base".toList, by decide +kernel, .inl rfl,
      (.ipv6 [0, 0, 0, 0, 0, 0, 0, 1], some 8022, []), by decide +kernel⟩, by decide +kernel⟩
  obtain ⟨request, requested⟩ :=
    (Client.exists_requestOf?_iff (.pending Ledger.Transaction.blank.id)).mpr able
  have asked := conversation_call (.pendingTransaction Ledger.Transaction.blank.id) .dropped requested
  have path := (request_path_iff accepted parsed rfl
    (fun id same => ⟨Ledger.Transaction.blank, (Query.pendingTransaction.inj same).symm⟩) asked
    List.mem_cons_self).mpr front
  have trimmed : trimSlashes (String.ofList (Url.Path.rooted ["base".toList, []]).text) = "/base" := by
    decide +kernel
  rw [trimmed] at path
  exact ⟨_, request, _, accepted, asked, path⟩

/-- A line end behind the slash of an address keeps the slash, so that the path begins with two. -/
theorem request_path_line_end : ∃ client url request outcome,
    Client.ofAddress "http://[::1]:8022/\n" "token" = .ok client ∧
      Url.parse "http://[::1]:8022/\n" = .ok url ∧ url.scheme = "http" ∧
      Conversation (Query.status.call client).run [⟨request, .dropped⟩] outcome ∧
      request.path = "//v2/status" ∧
      trimSlashes (String.ofList url.path.text) ++ Query.status.errand.endpoint = "/v2/status" := by
  have parsed : Url.parse "http://[::1]:8022/\n" = .ok ⟨"http", some (.ipv6 [0, 0, 0, 0, 0, 0, 0, 1]),
      some 8022, .rooted [[]], none, none⟩ := by decide +kernel
  have accepted : Client.ofAddress "http://[::1]:8022/\n" "token" =
      .ok ⟨trimSlashes "http://[::1]:8022/\n", "token"⟩ := by
    rw [Client.ofAddress, parsed]
    rfl
  have joined : Url.parse (trimSlashes "http://[::1]:8022/\n" ++ Query.status.errand.endpoint) =
      .ok ⟨"http", some (.ipv6 [0, 0, 0, 0, 0, 0, 0, 1]), some 8022,
        .rooted [[], "v2".toList, "status".toList], none, none⟩ := by decide +kernel
  have requested :
      Client.requestOf? ⟨trimSlashes "http://[::1]:8022/\n", "token"⟩ Query.status.errand = some _ :=
    Client.request?_eq_some_iff.mpr ⟨_, joined, .inl rfl, by decide +kernel, rfl⟩
  exact ⟨_, _, _, _, accepted, parsed, rfl, conversation_call .status .dropped requested,
    by decide +kernel, by decide +kernel⟩

end

end WalletTools.Node
