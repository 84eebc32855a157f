import AzcRepair.Proofs.Contract.Block
import AzcRepair.Proofs.Contract.RoundTrip

/-!
# Finding a contract in prose

A reply surrounds the text of a contract with prose. The search for the contract counts braces
without looking at strings, so it depends on the braces in the strings of the contract whether the
contract is found: it is whenever they balance in every string, and exactly when the braces of the
whole text, counted from the end, balance at its front and nowhere before.

* `balanced_write` — the text of a value is balanced when its strings are.
* `reply_recovery` — the contract is recovered exactly when its text is a block.
* `reply_recovery_stray` — a contract whose text is not.
-/

namespace AzcRepair

open Contract (openBrace closeBrace openings closings BraceFree Balanced IsBlock)

namespace Json

/-! ## Braces in the text of a value

A brace in a string is written as it is, since the writer escapes no braces. So the braces of the
text are those of the values and of their strings, and if those of every string come out even,
then so do those of the text. The induction is on the value. -/

/-- Braces are written as they are, and other characters without braces. -/
theorem escape_braceFree (c : Char) : escape c = [c] ∨ BraceFree [c] ∧ BraceFree (escape c) := by
  unfold escape
  split
  case h_8 =>
    -- a control character is written with two digits, any other as it is
    split
    · next control =>
      have digits : BraceFree [Text.hexDigit (c.toNat / 16), Text.hexDigit (c.toNat % 16)] := by
        have all : ∀ k : Fin 32, BraceFree [Text.hexDigit (k / 16), Text.hexDigit (k % 16)] := by
          decide
        exact all ⟨_, control⟩
      have free : BraceFree [c] := by
        constructor <;> intro mem <;> rw [← List.mem_singleton.mp mem] at control <;>
          exact absurd control (by decide)
      have front : BraceFree ['\\', 'u', '0', '0'] := by decide
      exact .inr ⟨free, fun mem => (List.mem_append.mp mem).elim front.1 digits.1,
        fun mem => (List.mem_append.mp mem).elim front.2 digits.2⟩
    · exact .inl rfl
  all_goals exact .inr (by decide)

/-- The braces of a character are counted alike before and after it is written. -/
theorem counts_escape (c : Char) :
    openings (escape c) = openings [c] ∧ closings (escape c) = closings [c] := by
  obtain same | ⟨free, others⟩ := escape_braceFree c
  · rw [same]
    exact ⟨rfl, rfl⟩
  · exact ⟨others.counts.1.trans free.counts.1.symm, others.counts.2.trans free.counts.2.symm⟩

theorem counts_flatMap_escape (text : List Char) :
    openings (text.flatMap escape) = openings text ∧
      closings (text.flatMap escape) = closings text := by
  induction text with
  | nil => exact ⟨rfl, rfl⟩
  | cons c text ih =>
    rw [List.flatMap_cons, ← List.singleton_append (l := text)]
    simp only [Contract.openings_append, Contract.closings_append, counts_escape c, ih, and_self]

theorem balanced_flatMap_escape {text : List Char} (balanced : Balanced text) :
    Balanced (text.flatMap escape) := by
  obtain ⟨opened, closed⟩ := counts_flatMap_escape text
  refine ⟨by rw [opened, closed, balanced.even], ?_⟩
  -- only the tails are inherited by the rest of a text, so the induction is on them alone
  replace balanced := balanced.tails
  clear opened closed
  induction text with
  | nil =>
    intro tail h
    rw [List.suffix_nil.mp h]
    exact Nat.le_refl 0
  | cons c text ih =>
    intro tail h
    have rest := ih fun tail h => balanced tail (h.trans (List.suffix_cons c text))
    rw [List.flatMap_cons] at h
    obtain short | ⟨part, inside, rfl⟩ := Contract.suffix_append_cases h
    · exact rest tail short
    · -- a part of what a character was written as is that character, or holds no brace
      obtain ⟨opened, closed⟩ := counts_flatMap_escape text
      rw [Contract.openings_append, Contract.closings_append, opened, closed]
      obtain same | ⟨-, others⟩ := escape_braceFree c
      · rw [same] at inside
        obtain rfl | empty := List.suffix_cons_iff.mp inside
        · have whole := balanced (c :: text) List.suffix_rfl
          rwa [← List.singleton_append, Contract.openings_append, Contract.closings_append] at whole
        · rw [List.suffix_nil.mp empty]
          simpa using balanced text (List.suffix_cons c text)
      · rw [(others.suffix inside).counts.1, (others.suffix inside).counts.2]
        simpa using balanced text (List.suffix_cons c text)

theorem balanced_quoted {text : List Char} (balanced : Balanced text) : Balanced (quoted text) := by
  have quote : Balanced ['"'] := BraceFree.balanced (by decide)
  exact quote.append ((balanced_flatMap_escape balanced).append quote)

theorem balanced_signedDigits (n : Int) : Balanced (signedDigits n) := by
  have digits (n : Nat) : BraceFree (Text.digits n) :=
    ⟨fun mem => Bool.noConfusion (Text.isDigit_of_mem_digits mem),
      fun mem => Bool.noConfusion (Text.isDigit_of_mem_digits mem)⟩
  cases n with
  | ofNat n => exact (digits n).balanced
  | negSucc n =>
    have sign : Balanced ['-'] := BraceFree.balanced (by decide)
    exact sign.append (digits (n + 1)).balanced

/-- Every string of the value, the names of members included, is such a text. -/
inductive AllTexts (good : List Char → Prop) : Json → Prop
  | null : AllTexts good .null
  | bool (value : Bool) : AllTexts good (.bool value)
  | integer (n : Int) : AllTexts good (.integer n)
  | decimal (mantissa exponent : Int) : AllTexts good (.decimal mantissa exponent)
  | unreadable : AllTexts good .unreadable
  | string {text : String} (h : good text.toList) : AllTexts good (.string text)
  | array {items : List Json} (each : ∀ item ∈ items, AllTexts good item) :
    AllTexts good (.array items)
  | object {members : List (String × Json)} (names : ∀ m ∈ members, good m.1.toList)
    (each : ∀ m ∈ members, AllTexts good m.2) : AllTexts good (.object members)

theorem balanced_comma : Balanced [','] := BraceFree.balanced (by decide)

theorem balanced_colon : Balanced [':'] := BraceFree.balanced (by decide)

theorem balanced_nil : Balanced [] := BraceFree.balanced (by decide)

/-- The further members of an object end with its brace. -/
theorem writeMembers_eq (members : List (String × Json)) :
    ∃ inner, writeMembers members = inner ++ [closeBrace] ∧
      ((∀ m ∈ members, Balanced m.1.toList ∧ Balanced (write m.2)) → Balanced inner) := by
  induction members with
  | nil => exact ⟨[], rfl, fun _ => balanced_nil⟩
  | cons m members ih =>
    obtain ⟨inner, shape, balanced⟩ := ih
    refine ⟨[','] ++ (quoted m.1.toList ++ ([':'] ++ (write m.2 ++ inner))), ?_, fun each => ?_⟩
    · simp [writeMembers, shape]
    · obtain ⟨first, others⟩ := List.forall_mem_cons.mp each
      exact balanced_comma.append ((balanced_quoted first.1).append
        (balanced_colon.append (first.2.append (balanced others))))

/-- The text of an object stands in braces, and what is between them is balanced when its members
are. -/
theorem write_object (members : List (String × Json)) :
    ∃ inner, write (.object members) = openBrace :: (inner ++ [closeBrace]) ∧
      ((∀ m ∈ members, Balanced m.1.toList ∧ Balanced (write m.2)) → Balanced inner) := by
  -- the first member stands without a comma, so it is set apart from the further ones
  cases members with
  | nil => exact ⟨[], rfl, fun _ => balanced_nil⟩
  | cons m members =>
    obtain ⟨inner, shape, balanced⟩ := writeMembers_eq members
    refine ⟨quoted m.1.toList ++ ([':'] ++ (write m.2 ++ inner)), ?_, fun each => ?_⟩
    · simp [write, shape, openBrace]
    · obtain ⟨first, others⟩ := List.forall_mem_cons.mp each
      exact (balanced_quoted first.1).append
        (balanced_colon.append (first.2.append (balanced others)))

theorem balanced_writeItems {items : List Json} (each : ∀ item ∈ items, Balanced (write item)) :
    Balanced (writeItems items) := by
  induction items with
  | nil => exact BraceFree.balanced (by decide)
  | cons item items ih =>
    obtain ⟨first, others⟩ := List.forall_mem_cons.mp each
    exact balanced_comma.append (first.append (ih others))

/-- The text of a value is balanced when all its strings are. -/
theorem balanced_write {value : Json} (texts : AllTexts Balanced value) :
    Balanced (write value) := by
  -- the induction is on the value; its objects and arrays put balanced texts one after another
  induction texts with
  | null | unreadable => exact BraceFree.balanced (by decide)
  | bool value => cases value <;> exact BraceFree.balanced (by decide)
  | integer n => exact balanced_signedDigits n
  | decimal mantissa exponent =>
    have mark : Balanced ['e'] := BraceFree.balanced (by decide)
    exact (balanced_signedDigits mantissa).append (mark.append (balanced_signedDigits exponent))
  | string h => exact balanced_quoted h
  | @array items each ih =>
    cases items with
    | nil => exact BraceFree.balanced (by decide)
    | cons item items =>
      obtain ⟨first, others⟩ := List.forall_mem_cons.mp ih
      have bracket : Balanced ['['] := BraceFree.balanced (by decide)
      exact bracket.append (first.append (balanced_writeItems others))
  | @object members names each ih =>
    obtain ⟨inner, shape, balanced⟩ := write_object members
    rw [shape]
    exact (balanced fun m mem => ⟨names m mem, ih m mem⟩).isBlock.balanced

/-! ## The strings of a value

The strings are gathered along the structure of a value, so that the condition on them can be
stated for a contract without a word about its text. -/

theorem allTexts_ofText? {good : List Char → Prop} {text : Option String}
    (h : ∀ t ∈ text, good t.toList) : AllTexts good (ofText? text) := by
  cases text with
  | none => exact .null
  | some text => exact .string (h text rfl)

theorem allTexts_array_map {α : Type} {good : List Char → Prop} {encode : α → Json}
    {items : List α} (each : ∀ item ∈ items, AllTexts good (encode item)) :
    AllTexts good (.array (items.map encode)) := by
  refine .array fun value mem => ?_
  obtain ⟨item, inside, rfl⟩ := List.mem_map.mp mem
  exact each item inside

/-- A record with plain names has just the strings of its members. -/
theorem allTexts_record {members : List (String × Json)} (names : List String)
    (free : ∀ name ∈ names, BraceFree name.toList) (named : members.map (·.1) = names)
    (each : ∀ value ∈ members.map (·.2), AllTexts Balanced value) :
    AllTexts Balanced (.object members) := by
  subst named
  exact .object (fun m mem => (free _ (List.mem_map_of_mem mem)).balanced)
    fun m mem => each _ (List.mem_map_of_mem mem)

end Json

open Json (AllTexts allTexts_ofText? allTexts_array_map allTexts_record balanced_write
  write_object)

/-! ## The strings of a contract

A contract has strings in its fixes, in its analysis and in the file. The definitions list them
part by part, and the lemmas follow the same parts. -/

def Rename.texts (rename : Rename) : List String :=
  rename.original.toList ++ rename.fixed.toList ++ rename.reason.toList

theorem Rename.allTexts_toJson {rename : Rename}
    (balanced : ∀ text ∈ rename.texts, Balanced text.toList) :
    AllTexts Balanced rename.toJson := by
  simp only [texts, List.forall_mem_append, Option.mem_toList] at balanced
  obtain ⟨⟨original, fixed⟩, reason⟩ := balanced
  refine allTexts_record ["original", "fixed", "reason"] (by decide) rfl ?_
  simp [allTexts_ofText? original, allTexts_ofText? fixed, allTexts_ofText? reason]

def ReferenceUpdate.texts (update : ReferenceUpdate) : List String :=
  update.location.toList ++ update.original.toList ++ update.fixed.toList ++ update.reason.toList

theorem ReferenceUpdate.allTexts_toJson {update : ReferenceUpdate}
    (balanced : ∀ text ∈ update.texts, Balanced text.toList) :
    AllTexts Balanced update.toJson := by
  simp only [texts, List.forall_mem_append, Option.mem_toList] at balanced
  obtain ⟨⟨⟨location, original⟩, fixed⟩, reason⟩ := balanced
  refine allTexts_record ["location", "original", "fixed", "reason"] (by decide) rfl ?_
  simp [allTexts_ofText? location, allTexts_ofText? original, allTexts_ofText? fixed,
    allTexts_ofText? reason]

def StructuralAddition.texts (addition : StructuralAddition) : List String :=
  addition.kind.toList ++ addition.location.toList ++ addition.reason.toList

theorem StructuralAddition.allTexts_toJson {addition : StructuralAddition}
    (balanced : ∀ text ∈ addition.texts, Balanced text.toList) :
    AllTexts Balanced addition.toJson := by
  simp only [texts, List.forall_mem_append, Option.mem_toList] at balanced
  obtain ⟨⟨kind, location⟩, reason⟩ := balanced
  refine allTexts_record ["type", "location", "reason"] (by decide) rfl ?_
  simp [allTexts_ofText? kind, allTexts_ofText? location, allTexts_ofText? reason]

namespace Contract

def texts (contract : Contract) : List String :=
  contract.analysis.errorTypesFound ++ contract.analysis.itemsRequiringFixes ++
    contract.fixes.renames.flatMap Rename.texts ++
    contract.fixes.referenceUpdates.flatMap ReferenceUpdate.texts ++
    contract.fixes.structuralAdditions.flatMap StructuralAddition.texts ++
    [contract.updatedContent]

/-- When all strings of a contract are balanced, so are those of its structured form. -/
theorem allTexts_toJson {contract : Contract}
    (balanced : ∀ text ∈ contract.texts, Balanced text.toList) :
    AllTexts Balanced contract.toJson := by
  simp only [texts, List.forall_mem_append, List.forall_mem_singleton, List.forall_mem_flatMap]
    at balanced
  obtain ⟨⟨⟨⟨⟨types, items⟩, renames⟩, updates⟩, additions⟩, content⟩ := balanced
  -- the lists of the analysis hold plain strings, and those of the fixes records
  have strings {texts : List String} (each : ∀ text ∈ texts, Balanced text.toList) :
      AllTexts Balanced (.array (texts.map .string)) :=
    allTexts_array_map fun text mem => .string (each text mem)
  have analysis : AllTexts Balanced contract.analysis.toJson := by
    refine allTexts_record ["total_errors", "error_types_found", "items_requiring_fixes"]
      (by decide) rfl ?_
    simp [strings types, strings items, Json.ofWord32, AllTexts.integer]
  have fixes : AllTexts Balanced contract.fixes.toJson := by
    refine allTexts_record ["renames", "reference_updates", "structural_additions"]
      (by decide) rfl ?_
    simp [allTexts_array_map fun rename mem => Rename.allTexts_toJson (renames rename mem),
      allTexts_array_map fun update mem => ReferenceUpdate.allTexts_toJson (updates update mem),
      allTexts_array_map fun addition mem =>
        StructuralAddition.allTexts_toJson (additions addition mem)]
  refine allTexts_record ["analysis", "fixes", Request.contentMember] (by decide) rfl ?_
  simp [analysis, fixes, AllTexts.string content]

/-! ## Recovery

The contract is found in a reply when its text is a block, and what is found is read back as it
was. Whether its text is a block depends on the strings alone. The last theorem shows that the
condition cannot be dropped: a file with a brace without a partner is not found, however plain the
prose around it is. -/

/-- The text of a contract stands in braces; when its texts are balanced, so is what is between. -/
theorem render_eq (contract : Contract) :
    ∃ inner, contract.toJson.render.toList = openBrace :: (inner ++ [closeBrace]) ∧
      ((∀ text ∈ contract.texts, Balanced text.toList) → Balanced inner) := by
  let members : List (String × Json) := [("analysis", contract.analysis.toJson),
    ("fixes", contract.fixes.toJson), (Request.contentMember, .string contract.updatedContent)]
  obtain ⟨inner, shape, balanced⟩ := write_object members
  refine ⟨inner, by rw [Json.render, String.toList_ofList]; exact shape, fun each => ?_⟩
  have whole : AllTexts Balanced (.object members) := allTexts_toJson each
  cases whole with
  | object names each => exact balanced fun m mem => ⟨names m mem, balanced_write (each m mem)⟩

/-- The block of a reply is the contract exactly when the text of the contract is a block. -/
theorem block_eq_iff (contract : Contract) (front : String) {back : String}
    (plain : closeBrace ∉ back.toList) :
    block (front ++ contract.toJson.render ++ back) = .ok contract.toJson.render ↔
      IsBlock contract.toJson.render.toList := by
  obtain ⟨inner, text, -⟩ := render_eq contract
  exact block_part_iff text front plain

/-- **A contract is recovered from the reply that holds it exactly when its text is a block.** The
prose around it may be any text, as long as no closing brace follows. It is a block whenever the
braces of every single string of the contract balance. -/
theorem reply_recovery (contract : Contract)
    (content : Text.isBlankText contract.updatedContent = false) (front back : String)
    (plain : closeBrace ∉ back.toList) :
    (block (front ++ contract.toJson.render ++ back) = .ok contract.toJson.render ↔
        IsBlock contract.toJson.render.toList) ∧
      (IsBlock contract.toJson.render.toList →
        ofReply (front ++ contract.toJson.render ++ back) = .ok contract) ∧
      ((∀ text ∈ contract.texts, Balanced text.toList) →
        IsBlock contract.toJson.render.toList) := by
  have found := block_eq_iff contract front plain
  refine ⟨found, fun isBlock => ofReply_of_block content (found.mpr isBlock), fun each => ?_⟩
  obtain ⟨inner, text, balanced⟩ := render_eq contract
  rw [text]
  exact (balanced each).isBlock

/-- A contract with a model in its file is recovered from between two sentences. -/
theorem reply_recovery_model :
    ofReply ("Here it is: " ++
        (⟨.empty, .empty, "model Foo \x7b\x7d"⟩ : Contract).toJson.render ++ " Done \x7b") =
      .ok ⟨.empty, .empty, "model Foo \x7b\x7d"⟩ := by
  have recovery := reply_recovery ⟨.empty, .empty, "model Foo \x7b\x7d"⟩ (by decide) "Here it is: "
    " Done \x7b" (by decide)
  refine recovery.2.1 (recovery.2.2 fun text mem => ?_)
  rw [List.mem_singleton.mp mem]
  have words : Balanced "model Foo ".toList := BraceFree.balanced (by decide)
  exact words.append Json.balanced_nil.isBlock.balanced

/-- A contract whose file holds a brace without a partner, as a comment or a string may. -/
def stray : Contract :=
  ⟨.empty, .empty, "\x7d"⟩

/-- That contract is not recovered, not even from its bare text. -/
theorem reply_recovery_stray :
    ¬ ∀ (contract : Contract) (front back : String),
      Text.isBlankText contract.updatedContent = false → BraceFree front.toList →
      BraceFree back.toList →
      block (front ++ contract.toJson.render ++ back) = .ok contract.toJson.render ∧
        ofReply (front ++ contract.toJson.render ++ back) = .ok contract := by
  intro recovered
  have found := (recovered stray "" "" (by decide) (by decide) (by decide)).1
  have even := ((block_eq_iff stray "" (by decide)).mp found).even
  rw [Json.render, String.toList_ofList] at even
  exact absurd even (by decide +kernel)

end Contract

end AzcRepair
