import WalletTools.Proofs.Except
import WalletTools.Url.Parse

/-! Texts that a path is appended to. What stands in front of the path alone decides whether the whole is
a URL of the web: its scheme and its authority end before the path or with it. -/
namespace WalletTools.Url

/-- The text writes a URL of the web. -/
def IsWeb (text : String) : Prop :=
  ∃ url, parse text = .ok url ∧ (url.scheme = "http" ∨ url.scheme = "https")

/-- A path that begins with a segment that has no special meaning. -/
def IsEndpoint (path : String) : Prop := ∃ rest, path.toList = '/' :: 'v' :: '2' :: '/' :: rest

theorem IsEndpoint.append {path : String} (endpoint : IsEndpoint path) (more : String) :
    IsEndpoint (path ++ more) := by
  obtain ⟨rest, written⟩ := endpoint
  exact ⟨rest ++ more.toList, by rw [String.toList_append, written]; rfl⟩

/-! ## Lists in front of a mark -/

variable {α : Type} {keep : α → Bool} {mark : α}

theorem takeWhile_append_mark (stops : keep mark = false) (front back : List α) :
    (front ++ mark :: back).takeWhile keep = front.takeWhile keep := by
  induction front with
  | nil => simp [stops]
  | cons first rest ih => by_cases kept : keep first <;> simp [kept, ih]

theorem dropWhile_append_mark (stops : keep mark = false) (front back : List α) :
    (front ++ mark :: back).dropWhile keep = front.dropWhile keep ++ mark :: back := by
  induction front with
  | nil => simp [stops]
  | cons first rest ih => by_cases kept : keep first <;> simp [kept, ih]

/-! ## Schemes -/

/-- What is left of a text in front of a path. -/
def cleanFront (text : String) : List Char :=
  (text.toList.dropWhile isMargin).filter fun char => !isBreak char

/-- Blanks are dropped from the path's own end only. -/
private theorem clean_append {path : String} (endpoint : IsEndpoint path) (base : String) :
    ∃ rest, clean (base ++ path) = cleanFront base ++ '/' :: 'v' :: '2' :: '/' :: rest := by
  obtain ⟨rest, written⟩ := endpoint
  have slash : isMargin '/' = false := by decide
  refine ⟨((rest.reverse.dropWhile isMargin).reverse).filter fun char => !isBreak char, ?_⟩
  have marks : ['/', 'v', '2', '/'].filter (fun char => !isBreak char) = ['/', 'v', '2', '/'] := by decide
  have ending (front : List Char) : (front ++ '/' :: 'v' :: '2' :: '/' :: rest).reverse =
      rest.reverse ++ '/' :: ('2' :: 'v' :: '/' :: front.reverse) := by simp
  unfold clean cleanFront
  rw [String.toList_append, written, dropWhile_append_mark slash]
  dsimp only
  rw [ending, dropWhile_append_mark slash]
  simp [List.filter_append, isBreak]

/-- Whether a character can stand in a scheme. -/
def isSchemeChar (char : Char) : Bool :=
  char.isAlphanum || char = '+' || char = '-' || char = '.'

/-- What a text is split into where the letters of a scheme end. -/
def splitColon (text letters : List Char) : Option (String × List Char) :=
  match text with
  | ':' :: rest => some (String.ofList (letters.map Char.toLower), rest)
  | _ => none

theorem splitScheme_eq (text : List Char) : splitScheme text =
    if text.head?.any Char.isAlpha then
      splitColon (text.dropWhile isSchemeChar) (text.takeWhile isSchemeChar)
    else none := rfl

theorem splitScheme_append (front back : List Char) :
    splitScheme (front ++ '/' :: back) =
      (splitScheme front).map fun (scheme, rest) => (scheme, rest ++ '/' :: back) := by
  cases front with
  | nil => rfl
  | cons first rest =>
    have stops : isSchemeChar '/' = false := by decide
    rw [splitScheme_eq, splitScheme_eq, takeWhile_append_mark stops, dropWhile_append_mark stops,
      List.cons_append, List.head?_cons, List.head?_cons]
    split
    · -- The colon, if there is one, stands in front of the path.
      cases (first :: rest).dropWhile isSchemeChar with
      | nil => rfl
      | cons mark later =>
        by_cases colon : mark = ':'
        · subst colon
          rfl
        · simp [splitColon, colon]
    · rfl

/-! ## Authorities -/

/-- Whether a character is part of an authority of the network. -/
def inAuthority (char : Char) : Bool := !SchemeKind.network.endsAuthority char

private theorem parseHosted_append (scheme : String) (front back : List Char) :
    (∃ url, parseHosted scheme .network (front ++ '/' :: back) = .ok url) ↔
      ∃ found, parseAuthority .network (front.takeWhile inAuthority) true = .ok found := by
  have stops : inAuthority '/' = false := by decide
  have taken : (front ++ '/' :: back).takeWhile (fun char => !SchemeKind.network.endsAuthority char) =
      front.takeWhile inAuthority := takeWhile_append_mark stops front back
  have more : (!((front ++ '/' :: back).dropWhile
      fun char => !SchemeKind.network.endsAuthority char).isEmpty) = true := by
    have left := dropWhile_append_mark stops front back
    unfold inAuthority at left
    rw [left]
    simp
  unfold parseHosted
  dsimp only
  rw [taken, more]
  constructor
  · intro success
    obtain ⟨_, success⟩ := success
    obtain ⟨found, success, _⟩ := bind_eq_ok_iff.mp success
    exact ⟨found, success⟩
  · intro success
    obtain ⟨found, success⟩ := success
    exact ⟨_, bind_eq_ok_iff.mpr ⟨found, success, rfl⟩⟩

theorem parseHosted_scheme {scheme : String} {kind : SchemeKind} {text : List Char} {url : Url}
    (success : parseHosted scheme kind text = .ok url) : url.scheme = scheme := by
  unfold parseHosted at success
  obtain ⟨found, _, done⟩ := bind_eq_ok_iff.mp success
  cases done
  rfl

theorem parseOther_scheme {scheme : String} {text : List Char} {url : Url}
    (success : parseOther scheme text = .ok url) : url.scheme = scheme := by
  unfold parseOther at success
  split at success
  · exact parseHosted_scheme success
  · cases success
    rfl

theorem parseFile_scheme {text : List Char} {url : Url} (success : parseFile text = .ok url) :
    url.scheme = "file" := by
  unfold parseFile at success
  dsimp only at success
  split at success
  · split at success
    · split at success
      · cases success
        rfl
      · split at success
        · cases success
          rfl
        · obtain ⟨_, _, done⟩ := bind_eq_ok_iff.mp success
          cases done
          rfl
    · cases success
      rfl
  · cases success
    rfl

/-- The authority of a text behind its scheme, where a path follows: without one, the path's first
segment is taken for it. -/
def authorityFront (text : List Char) : List Char :=
  let behind := text.dropWhile (SchemeKind.network.isSlash ·)
  if behind.isEmpty then ['v', '2'] else behind.takeWhile inAuthority

private theorem parseNetwork_append (scheme : String) (text back : List Char) :
    (∃ url, parseHosted scheme .network
      ((text ++ '/' :: 'v' :: '2' :: '/' :: back).dropWhile (SchemeKind.network.isSlash ·)) = .ok url) ↔
      ∃ found, parseAuthority .network (authorityFront text) true = .ok found := by
  rw [List.dropWhile_append]
  unfold authorityFront
  dsimp only
  by_cases slashes : (text.dropWhile (SchemeKind.network.isSlash ·)).isEmpty = true
  · rw [if_pos slashes, if_pos slashes]
    exact parseHosted_append scheme ['v', '2'] back
  · rw [if_neg slashes, if_neg slashes]
    exact parseHosted_append scheme _ _

/-! ## The web -/

/-- A text that makes a URL of the web with a path behind it. -/
def IsWebFront (text : String) : Prop :=
  ∃ scheme rest, splitScheme (cleanFront text) = some (scheme, rest) ∧
    (scheme = "http" ∨ scheme = "https") ∧
    ∃ found, parseAuthority .network (authorityFront rest) true = .ok found

/-- Whether a text and a path behind it are a URL of the web does not hang on the path. -/
theorem isWeb_append_iff {path : String} (endpoint : IsEndpoint path) (base : String) :
    IsWeb (base ++ path) ↔ IsWebFront base := by
  obtain ⟨back, cleaned⟩ := clean_append endpoint base
  unfold IsWeb IsWebFront parse
  rw [cleaned, splitScheme_append]
  cases splitScheme (cleanFront base) with
  | none => simp
  | some parts =>
    obtain ⟨scheme, rest⟩ := parts
    dsimp only [Option.map_some]
    constructor
    · intro web
      obtain ⟨url, parsed, named⟩ := web
      refine ⟨scheme, rest, rfl, ?_⟩
      cases kind : SchemeKind.of scheme with
      | network =>
        simp only [kind] at parsed
        rw [parseHosted_scheme parsed] at named
        exact ⟨named, (parseNetwork_append scheme rest back).mp ⟨url, parsed⟩⟩
      | file =>
        simp only [kind] at parsed
        rw [parseFile_scheme parsed] at named
        simp at named
      | other =>
        simp only [kind] at parsed
        rw [parseOther_scheme parsed] at named
        rcases named with rfl | rfl <;> simp [SchemeKind.of] at kind
    · intro front
      obtain ⟨_, _, split, named, found⟩ := front
      cases split
      obtain ⟨url, parsed⟩ := (parseNetwork_append scheme rest back).mpr found
      have kind : SchemeKind.of scheme = .network := by rcases named with rfl | rfl <;> decide
      simp only [kind]
      refine ⟨url, parsed, ?_⟩
      rwa [parseHosted_scheme parsed]

end WalletTools.Url
