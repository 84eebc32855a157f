import AzcRepair.Http.Address
import Mathlib.Data.List.TakeWhile

/-!
# Addresses that go on

What stands behind a path belongs to the path: an address that is continued behind a slash keeps its
scheme, its host and its port. So when a request can be sent to an address, it can be sent to every
longer one, unless that is too long.

* `readParts_extend` — the parts of a longer address.
* `read_extend` — the longer address of a request.
-/

namespace AzcRepair.Http.Address

/-! ### Prefixes that end a scan

An address is read by scans, each of which stops at a certain character. When the text goes on
behind a slash, every scan that stopped before still stops at the same place. The first lemmas say
this of the two library functions that the scans are made of. -/

theorem takeWhile_append_stop {p : Char → Bool} {stop : Char} (stops : p stop = false)
    (front back : List Char) : (front ++ stop :: back).takeWhile p = front.takeWhile p := by
  rw [List.takeWhile_append]
  split
  · next whole =>
    have all : front.takeWhile p = front := (List.takeWhile_prefix p).eq_of_length whole
    simp [stops, all]
  · rfl

theorem dropWhile_append_stop {p : Char → Bool} {stop : Char} (stops : p stop = false)
    (front back : List Char) :
    (front ++ stop :: back).dropWhile p = front.dropWhile p ++ stop :: back := by
  rw [List.dropWhile_append]
  split
  · next gone =>
    simp [stops, List.isEmpty_iff.mp gone]
  · rfl

theorem trimEnd_append_stop {p : Char → Bool} {stop : Char} (stops : p stop = false)
    (front back : List Char) :
    ((front ++ stop :: back).reverse.dropWhile p).reverse =
      front ++ stop :: (back.reverse.dropWhile p).reverse := by
  have turned : (front ++ stop :: back).reverse = back.reverse ++ stop :: front.reverse := by simp
  rw [turned, dropWhile_append_stop stops]
  simp

/-- A text that does not end in a blank is trimmed the same way when it goes on behind a slash. -/
theorem significant_extend {text : List Char} {last : Char} (ends : text.getLast? = some last)
    (solid : isOuterBlank last = false) (back : List Char) :
    ∃ rest, significant (text ++ '/' :: back) = significant text ++ '/' :: rest := by
  have slash : isOuterBlank '/' = false := by decide
  obtain ⟨front, rfl⟩ : ∃ front, text = front ++ [last] := List.getLast?_eq_some_iff.mp ends
  have longer : front ++ [last] ++ '/' :: back = front ++ last :: '/' :: back := by simp
  have behind : front.dropWhile isOuterBlank ++ last :: '/' :: back =
      (front.dropWhile isOuterBlank ++ [last]) ++ '/' :: back := by simp
  unfold significant
  rw [longer, dropWhile_append_stop solid, dropWhile_append_stop solid, behind,
    trimEnd_append_stop slash, trimEnd_append_stop solid, List.filter_append]
  exact ⟨_, by simp; rfl⟩

/-! ### The parts of an address

The scheme ends at its colon, and the authority at the first slash behind it. Both are read from
the beginning of the text, so they are not affected by what is put behind it. A text without an
authority would be: its authority could begin with what follows. Such a text is no address. -/

/-- The characters that the name of a scheme is made of. -/
def isNameChar (c : Char) : Bool :=
  c.isAlphanum || c = '+' || c = '-' || c = '.'

theorem readScheme_eq (text : List Char) : readScheme text =
    let name := text.takeWhile isNameChar
    match text.drop name.length with
    | ':' :: rest =>
      if (name.head?.map Char.isAlpha).getD false then
        let scheme := String.ofList (name.map Char.toLower)
        if scheme = "http" || scheme = "https" then .ok (scheme, rest)
        else .error (.otherScheme (String.ofList (name.map Char.toLower ++ ':' ::
          percentEncode (fun c => 0x20 ≤ c.toNat && c.toNat < 0x7F) rest)))
      else .error .noScheme
    | _ => .error .noScheme :=
  rfl

/-- When a text begins with a name and a colon, what follows the colon is passed on. -/
theorem readScheme_eq_ok_iff {name : List Char} (names : name.takeWhile isNameChar = name)
    (behind : List Char) (scheme : String) (rest : List Char) :
    readScheme (name ++ ':' :: behind) = .ok (scheme, rest) ↔
      ((name.head?.map Char.isAlpha).getD false = true ∧
        String.ofList (name.map Char.toLower) = scheme ∧ (scheme = "http" ∨ scheme = "https")) ∧
      behind = rest := by
  have scan : (name ++ ':' :: behind).takeWhile isNameChar = name :=
    (takeWhile_append_stop (by decide) name behind).trans names
  have passed : (name ++ ':' :: behind).drop name.length = ':' :: behind := List.drop_left
  simp only [readScheme_eq, scan, passed]
  -- the name has to begin with a letter and to be one of the two that are known
  split
  · next alpha =>
    split
    · next known =>
      have either : String.ofList (name.map Char.toLower) = "http" ∨
          String.ofList (name.map Char.toLower) = "https" := by simpa using known
      simp only [Except.ok.injEq, Prod.mk.injEq, alpha, true_and]
      constructor
      · rintro ⟨rfl, rfl⟩
        exact ⟨⟨rfl, either⟩, rfl⟩
      · rintro ⟨⟨same, -⟩, rfl⟩
        exact ⟨same, rfl⟩
    · next unknown =>
      constructor
      · nofun
      · rintro ⟨⟨-, rfl, known⟩, -⟩
        exact absurd (by simpa using known) unknown
  · next other =>
    constructor
    · nofun
    · rintro ⟨⟨alpha, -⟩, -⟩
      exact absurd alpha other

theorem readScheme_parts {text rest : List Char} {scheme : String}
    (h : readScheme text = .ok (scheme, rest)) :
    ∃ name behind, name.takeWhile isNameChar = name ∧ text = name ++ ':' :: behind := by
  have scanned := List.prefix_iff_eq_append.mp (List.takeWhile_prefix (l := text) isNameChar)
  simp only [readScheme_eq] at h
  split at h
  · next behind passed =>
    rw [passed] at scanned
    exact ⟨_, behind, List.takeWhile_idem, scanned.symm⟩
  · cases h

/-- A scheme that was read is read again when the text goes on. -/
theorem readScheme_extend {text rest : List Char} {scheme : String}
    (h : readScheme text = .ok (scheme, rest)) (back : List Char) :
    readScheme (text ++ back) = .ok (scheme, rest ++ back) := by
  obtain ⟨name, behind, names, rfl⟩ := readScheme_parts h
  obtain ⟨known, rfl⟩ := (readScheme_eq_ok_iff names behind scheme rest).mp h
  rw [List.append_assoc, List.cons_append]
  exact (readScheme_eq_ok_iff names _ scheme _).mpr ⟨known, rfl⟩

theorem readAuthority_nil (scheme : String) (read : Host × Option Nat) :
    readAuthority scheme [] ≠ .ok read :=
  nofun

def isSlash (c : Char) : Bool :=
  c = '/' || c = '\\'

/-- The authority of an address ends here. -/
def isEnd (c : Char) : Bool :=
  c = '/' || c = '\\' || c = '?' || c = '#'

/-- What stands between the slashes behind a scheme and the path. -/
def authorityText (behind : List Char) : List Char :=
  (behind.dropWhile isSlash).takeWhile (!isEnd ·)

/-- A text that holds an authority holds the same one when it goes on behind a slash. -/
theorem authorityText_extend {behind : List Char} (some : authorityText behind ≠ [])
    (back : List Char) : authorityText (behind ++ '/' :: back) = authorityText behind := by
  have inside : behind.dropWhile isSlash ≠ [] := by
    intro none
    rw [authorityText, none] at some
    exact some rfl
  have dropped : (behind ++ '/' :: back).dropWhile isSlash =
      behind.dropWhile isSlash ++ '/' :: back := by
    rw [List.dropWhile_append, if_neg (by simpa [List.isEmpty_iff] using inside)]
  rw [authorityText, dropped, takeWhile_append_stop (by decide)]
  rfl

/-- A text with a scheme and an authority is an address on the host of the authority. -/
theorem readParts_eq_ok {text : String} {scheme : String} {behind : List Char} {host : Host}
    {port : Option Nat} (named : readScheme (significant text.toList) = .ok (scheme, behind))
    (authority : readAuthority scheme (authorityText behind) = .ok (host, port)) :
    ∃ address, readParts text = .ok address ∧ address.host = host := by
  unfold readParts
  rw [named]
  change ∃ address, (readAuthority scheme (authorityText behind) >>= _) = .ok address ∧ _
  rw [authority]
  exact ⟨_, rfl, rfl⟩

/-- An address that was read has a scheme, and an authority with its host. -/
theorem authority_of_readParts {text : String} {address : Address}
    (h : readParts text = .ok address) :
    ∃ scheme behind port, readScheme (significant text.toList) = .ok (scheme, behind) ∧
      readAuthority scheme (authorityText behind) = .ok (address.host, port) := by
  unfold readParts at h
  cases named : readScheme (significant text.toList) with
  | error problem =>
    rw [named] at h
    cases h
  | ok read =>
    obtain ⟨scheme, behind⟩ := read
    rw [named] at h
    change (readAuthority scheme (authorityText behind) >>= _) = _ at h
    cases authority : readAuthority scheme (authorityText behind) with
    | error problem =>
      rw [authority] at h
      cases h
    | ok read =>
      obtain ⟨host, port⟩ := read
      rw [authority] at h
      cases h
      exact ⟨scheme, behind, port, rfl, authority⟩

/-- An address that goes on behind a slash is on the same host. -/
theorem readParts_extend {text : String} {address : Address} {last : Char}
    (h : readParts text = .ok address) (ends : text.toList.getLast? = some last)
    (solid : isOuterBlank last = false) (back : String) :
    ∃ longer, readParts (text ++ "/" ++ back) = .ok longer ∧ longer.host = address.host := by
  have chars : (text ++ "/" ++ back).toList = text.toList ++ '/' :: back.toList := by
    simp [String.toList_append]
  obtain ⟨rest, counts⟩ := significant_extend ends solid back.toList
  obtain ⟨scheme, behind, port, named, authority⟩ := authority_of_readParts h
  have some : authorityText behind ≠ [] := by
    intro none
    rw [none] at authority
    exact readAuthority_nil _ _ authority
  have named' := readScheme_extend named ('/' :: rest)
  rw [← counts, ← chars] at named'
  rw [← authorityText_extend some rest] at authority
  exact readParts_eq_ok named' authority

/-! ### Addresses of requests

The parameters are put behind the address and do not touch its host. So of the three things that
an address can be refused for, only its length can come up when it gets longer. -/

@[simp] theorem withQuery_host (address : Address) (parameters : List (String × String)) :
    (address.withQuery parameters).host = address.host := by
  unfold withQuery
  split <;> rfl

/-- When a request can be sent to an address, one can be sent to every longer address, unless that
is too long. -/
theorem read_extend {text : String} {parameters : List (String × String)} {address : Address}
    {last : Char} (h : read text parameters = .ok address)
    (ends : text.toList.getLast? = some last) (solid : isOuterBlank last = false) (back : String)
    (others : List (String × String)) :
    (∃ longer, read (text ++ "/" ++ back) others = .ok longer) ∨
      ∃ longer : Address, read (text ++ "/" ++ back) others = .error (.unfit longer.text) ∧
        maxLength < longer.text.utf8ByteSize := by
  unfold read at h ⊢
  cases parts : readParts text with
  | error problem =>
    rw [parts] at h
    cases h
  | ok short =>
    rw [parts] at h
    change (if (short.withQuery parameters).isFit then _ else _) = _ at h
    obtain ⟨longer, goesOn, host⟩ := readParts_extend parts ends solid back
    rw [goesOn]
    change (∃ _, (if (longer.withQuery others).isFit then _ else _) = _) ∨
      ∃ _, (if (longer.withQuery others).isFit then _ else _) = _ ∧ _
    split at h
    · next fits =>
      split
      · exact .inl ⟨_, rfl⟩
      · next unfit =>
        -- the host fits, so only the length can be wrong
        refine .inr ⟨longer.withQuery others, rfl, ?_⟩
        simp only [isFit, withQuery_host, host, Bool.and_eq_true, decide_eq_true_eq] at fits unfit
        exact Nat.lt_of_not_le fun short => unfit ⟨short, fits.2⟩
    · cases h

end AzcRepair.Http.Address
