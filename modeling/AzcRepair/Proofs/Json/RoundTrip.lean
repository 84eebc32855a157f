import AzcRepair.Json.Decode
import AzcRepair.Json.Reader
import AzcRepair.Json.Writer
import AzcRepair.Proofs.Text.Digits

/-!
# Reading what was written

A value that holds no decimals and whose whole numbers fit 64 bits is read back from its compact
text, whatever characters its strings hold, as long as not too many containers are open at once.

* `readString_flatMap` — a string is read back.
* `readNumber_digits` — a whole number is read back.
* `Exact` — the values that are read back, with the number of containers that they open.
* `readValue_write`, `read_render` — the round trip, within a text and for a whole text.
-/

namespace AzcRepair.Json

open Text (isDigit_digitChar isDigit_of_mem_digits)

/-! ## Strings

Every character is written in one of three ways: with a short escape, with the code of a control
character, or as it is. Each way is read back, so a string is, character by character. -/

theorem unit?_control {n : Nat} (h : n < 32) :
    unit? '0' '0' (Text.hexDigit (n / 16)) (Text.hexDigit (n % 16)) = some n := by
  have all : ∀ k : Fin 32,
      unit? '0' '0' (Text.hexDigit (k / 16)) (Text.hexDigit (k % 16)) = some k.val := by decide
  exact all ⟨n, h⟩

theorem readString_escape (strict : Bool) (c : Char) (rest : List Char) :
    readString strict (escape c ++ rest) = (readString strict rest).push c := by
  unfold escape
  -- the short escapes are closed at the end, the others first
  split
  case h_8 quote backslash _ _ _ _ _ =>
    split
    · next control =>
      -- a control character is no half of a surrogate pair
      have leading : isLeading c.toNat = false := by simp [isLeading]; omega
      have trailing : isTrailing c.toNat = false := by simp [isTrailing]; omega
      simp only [List.cons_append, List.nil_append, readString, unit?_control control, leading,
        trailing, Bool.false_eq_true, if_false, Char.ofNat_toNat]
    · next printable =>
      rw [List.cons_append, List.nil_append, readString, if_neg printable]
      case x_1 => exact quote
      all_goals intros; exact backslash ‹_›
  all_goals simp [readString, shortEscape?]

theorem readString_flatMap (strict : Bool) (text rest : List Char) :
    readString strict (text.flatMap escape ++ '"' :: rest) = .ok (some text, rest) := by
  induction text with
  | nil => rfl
  | cons c text ih =>
    rw [List.flatMap_cons, List.append_assoc, readString_escape, ih]
    rfl

theorem readName_flatMap (strict : Bool) (name : String) (rest : List Char) :
    readName strict (name.toList.flatMap escape ++ '"' :: rest) = .ok (some name, rest) := by
  rw [readName, readString_flatMap]
  simp [Except.map]

/-! ## Whole numbers

A number has no closing mark, so it is read back only in front of a text that does not go on with
it. The reader counts in 64 bits and drops the digits that no longer fit; `appendDigits_digits`
says that none is dropped from a number that fits. -/

/-- Only zero begins with a zero. -/
theorem digits_eq_cons (n : Nat) :
    ∃ c rest, Text.digits n = c :: rest ∧ c.isDigit = true ∧ (c = '0' → n = 0 ∧ rest = []) := by
  fun_induction Text.digits n with
  | case1 n small =>
    refine ⟨_, [], rfl, isDigit_digitChar small, fun zero => ⟨?_, rfl⟩⟩
    have all : ∀ k : Fin 10, Text.digitChar k = '0' → k.val = 0 := by decide
    exact all ⟨n, small⟩ zero
  | case2 n large ih =>
    obtain ⟨c, rest, shape, digit, zero⟩ := ih
    refine ⟨c, rest ++ [Text.digitChar (n % 10)], by rw [shape]; rfl, digit, fun isZero => ?_⟩
    have := (zero isZero).1
    omega

/-- The text does not go on with the number in front of it. -/
def EndsNumber (rest : List Char) : Prop :=
  ∀ c ∈ rest.head?, c.isDigit = false ∧ c ≠ '.' ∧ c ≠ 'e' ∧ c ≠ 'E'

theorem EndsNumber.takeWhile {rest : List Char} (ends : EndsNumber rest) :
    rest.takeWhile Char.isDigit = [] ∧ rest.dropWhile Char.isDigit = rest := by
  cases rest with
  | nil => exact ⟨rfl, rfl⟩
  | cons c rest =>
    have stop := (ends c rfl).1
    exact ⟨List.takeWhile_cons_of_neg (by simp [stop]), List.dropWhile_cons_of_neg (by simp [stop])⟩

theorem readWhole_digits (n : Nat) {rest : List Char} (ends : EndsNumber rest) :
    readWhole (Text.digits n ++ rest) = .ok (Text.digits n, rest) := by
  obtain ⟨c, others, shape, digit, zero⟩ := digits_eq_cons n
  have others_digits : ∀ d ∈ others, d.isDigit = true := fun d mem => by
    have inside : d ∈ Text.digits n := by rw [shape]; exact List.mem_cons_of_mem c mem
    exact isDigit_of_mem_digits inside
  rw [shape]
  -- a leading zero is the whole number, every other digit may be followed by more
  by_cases isZero : c = '0'
  · obtain ⟨-, rfl⟩ := zero isZero
    subst isZero
    cases rest with
    | nil => rfl
    | cons d rest => simp [readWhole, (ends d rfl).1]
  · rw [List.cons_append, readWhole]
    · rw [if_pos digit, List.takeWhile_append_of_pos others_digits, ends.takeWhile.1,
        List.dropWhile_append_of_pos others_digits, ends.takeWhile.2, List.append_nil]
    · exact isZero

theorem readFraction_of_ends {rest : List Char} (ends : EndsNumber rest) :
    readFraction rest = .ok (none, rest) := by
  unfold readFraction
  split
  · exact absurd rfl (ends '.' rfl).2.1
  · rfl

theorem readExponent_of_ends {rest : List Char} (ends : EndsNumber rest) :
    readExponent rest = .ok (none, rest) := by
  cases rest with
  | nil => rfl
  | cons c rest =>
    obtain ⟨-, -, small, large⟩ := ends c rfl
    simp [readExponent, small, large]

/-- As long as the digits fit, further ones go on from their value. -/
theorem appendDigits_append {n m : Nat} {front back : List Char}
    (fits : appendDigits n front = (m, 0)) :
    appendDigits n (front ++ back) = appendDigits m back := by
  induction front generalizing n with
  | nil => cases fits; rfl
  | cons c front ih =>
    -- no digit of the front was dropped, so each of them is taken as it was
    rw [appendDigits] at fits
    rw [List.cons_append, appendDigits]
    split at fits
    · cases fits
    · next small => rw [if_neg small, ih fits]

theorem appendDigits_digits {n : Nat} (fits : n ≤ maxWord) :
    appendDigits 0 (Text.digits n) = (n, 0) := by
  fun_induction Text.digits n with
  | case1 n small =>
    have value := Text.digitValue_digitChar small
    simp [appendDigits, value, Nat.not_lt.mpr fits]
  | case2 n large ih =>
    have value := Text.digitValue_digitChar (Nat.mod_lt n (by decide : 0 < 10))
    have whole : 10 * (n / 10) + n % 10 = n := by omega
    rw [appendDigits_append (ih (by omega))]
    simp [appendDigits, value, whole, Nat.not_lt.mpr fits]

/-- The whole numbers that fit 64 bits, with a sign or without. -/
def Fits (n : Int) : Prop :=
  Int64.minValue.toInt ≤ n ∧ n ≤ maxWord

theorem value?_digits {negative : Bool} {n : Nat} (fits : n ≤ maxWord)
    (sign : negative = true → 0 < n ∧ n ≤ Int64.minValue.toInt.natAbs) :
    Literal.value? negative ⟨Text.digits n, none, none⟩ =
      some (.integer (if negative then -n else n)) := by
  have whole : (⟨Text.digits n, none, none⟩ : Literal).isWhole = true := by
    simp [Literal.isWhole, appendDigits_digits fits]
  have parts : (⟨Text.digits n, none, none⟩ : Literal).parts = (n, 0) := by
    simp [Literal.parts, appendDigits_digits fits, appendDigits]
  have signed : (!negative || (0 < n && n ≤ Int64.minValue.toInt.natAbs)) = true := by
    cases negative with
    | false => rfl
    | true => simpa using sign rfl
  rw [Literal.value?, parts]
  dsimp only
  rw [whole, signed]
  rfl

theorem readNumber_digits {strict negative : Bool} {n : Nat} {rest : List Char}
    (fits : n ≤ maxWord) (sign : negative = true → 0 < n ∧ n ≤ Int64.minValue.toInt.natAbs)
    (ends : EndsNumber rest) :
    readNumber strict negative (Text.digits n ++ rest) =
      .ok (.integer (if negative then -n else n), rest) := by
  simp only [readNumber, bind, Except.bind, readWhole_digits n ends, readFraction_of_ends ends,
    readExponent_of_ends ends, value?_digits fits sign]

/-! ## Values

The writer recurses on the value and the reader on fuel. `ReadBack` asks for twice the length of
the text, which pays for one call on each value and one on what follows it. -/

/-- The values that are read back as they are, with the number of containers that they open. -/
inductive Exact : Nat → Json → Prop
  | null {depth : Nat} : Exact depth .null
  | bool {depth : Nat} (value : Bool) : Exact depth (.bool value)
  | integer {depth : Nat} {n : Int} (fits : Fits n) : Exact depth (.integer n)
  | string {depth : Nat} (text : String) : Exact depth (.string text)
  | array {depth : Nat} {items : List Json} (each : ∀ item ∈ items, Exact depth item) :
    Exact (depth + 1) (.array items)
  | object {depth : Nat} {members : List (String × Json)} (each : ∀ m ∈ members, Exact depth m.2) :
    Exact (depth + 1) (.object members)

theorem Exact.mono {shallow deep : Nat} {value : Json} (exact : Exact shallow value)
    (h : shallow ≤ deep) : Exact deep value := by
  induction exact generalizing deep with
  | null => exact .null
  | bool value => exact .bool value
  | integer fits => exact .integer fits
  | string text => exact .string text
  | array each ih =>
    obtain ⟨more, rfl⟩ := Nat.exists_eq_add_of_lt h
    exact .array fun item mem => ih item mem (by omega)
  | object each ih =>
    obtain ⟨more, rfl⟩ := Nat.exists_eq_add_of_lt h
    exact .object fun m mem => ih m mem (by omega)

@[simp] theorem exact_string {depth : Nat} (text : String) : Exact depth (.string text) :=
  .string text

@[simp] theorem exact_ofText? {depth : Nat} (text : Option String) :
    Exact depth (ofText? text) := by
  cases text with
  | none => exact .null
  | some text => exact .string text

@[simp] theorem exact_ofWord32 {depth : Nat} (n : UInt32) : Exact depth (ofWord32 n) := by
  have small := n.toNat_lt
  have low : Int64.minValue.toInt ≤ 0 := by decide
  have large : (2 ^ 32 : Nat) ≤ maxWord := by decide
  exact .integer ⟨by omega, by omega⟩

theorem exact_array_map {α : Type} {depth : Nat} {encode : α → Json} {items : List α}
    (each : ∀ item, Exact depth (encode item)) : Exact (depth + 1) (.array (items.map encode)) := by
  refine .array fun value mem => ?_
  obtain ⟨item, -, rfl⟩ := List.mem_map.mp mem
  exact each item

@[simp] theorem exact_object_nil {depth : Nat} : Exact (depth + 1) (.object []) :=
  .object nofun

@[simp] theorem exact_object_cons {depth : Nat} {m : String × Json}
    {members : List (String × Json)} :
    Exact (depth + 1) (.object (m :: members)) ↔
      Exact depth m.2 ∧ Exact (depth + 1) (.object members) := by
  constructor
  · rintro (_ | _ | _ | _ | _ | ⟨each⟩)
    exact ⟨each m List.mem_cons_self, .object fun other mem => each other (List.mem_cons_of_mem _ mem)⟩
  · rintro ⟨first, _ | _ | _ | _ | _ | ⟨each⟩⟩
    exact .object (List.forall_mem_cons.mpr ⟨first, each⟩)

theorem skipSpace_cons {c : Char} {rest : List Char} (h : isSpace c = false) :
    skipSpace (c :: rest) = c :: rest :=
  List.dropWhile_cons_of_neg (by simp [h])

theorem isSpace_of_isDigit {c : Char} (digit : c.isDigit = true) : isSpace c = false := by
  cases space : isSpace c with
  | false => rfl
  | true =>
    simp only [isSpace, Bool.or_eq_true, decide_eq_true_eq] at space
    rcases space with ((rfl | rfl) | rfl) | rfl <;> cases digit

/-- A value begins with a character that is neither a blank nor a closing bracket. -/
theorem write_eq_cons (value : Json) :
    ∃ c rest, write value = c :: rest ∧ isSpace c = false ∧ c ≠ ']' := by
  have number (n : Int) (back : List Char) :
      ∃ c rest, signedDigits n ++ back = c :: rest ∧ isSpace c = false ∧ c ≠ ']' := by
    cases n with
    | ofNat n =>
      obtain ⟨c, rest, shape, digit, -⟩ := digits_eq_cons n
      refine ⟨c, rest ++ back, by rw [signedDigits, shape]; rfl, isSpace_of_isDigit digit, ?_⟩
      rintro rfl
      cases digit
    | negSucc n => exact ⟨'-', _, rfl, rfl, by decide⟩
  -- numbers begin with a sign or a digit, all else with a mark of its own
  unfold write
  split
  case h_4 n =>
    obtain ⟨c, rest, shape, facts⟩ := number n []
    exact ⟨c, rest, by rw [← shape, List.append_nil], facts⟩
  case h_5 mantissa exponent => exact number mantissa _
  all_goals exact ⟨_, _, rfl, by decide, by decide⟩

theorem readValue_digit {strict : Bool} {fuel depth : Nat} {c : Char} {rest : List Char}
    (digit : c.isDigit = true) :
    readValue strict (fuel + 1) depth (c :: rest) = readNumber strict false (c :: rest) := by
  rw [readValue, skipSpace_cons (isSpace_of_isDigit digit)]
  split
  case h_9 same =>
    cases same
    rw [if_pos digit]
  all_goals rename_i same; cases same; try cases digit

/-- The value is read back from the front of every text that does not go on with it. The fuel pays
for two calls at each character. -/
def ReadBack (strict : Bool) (depth : Nat) (value : Json) : Prop :=
  ∀ fuel rest, 2 * (write value).length ≤ fuel → EndsNumber rest →
    readValue strict fuel depth (write value ++ rest) = .ok (value, rest)

theorem endsNumber_cons {c : Char} {rest : List Char} (digit : c.isDigit = false)
    (others : c ≠ '.' ∧ c ≠ 'e' ∧ c ≠ 'E') : EndsNumber (c :: rest) := by
  intro d head
  cases head
  exact ⟨digit, others⟩

theorem endsNumber_writeItems (items : List Json) (rest : List Char) :
    EndsNumber (writeItems items ++ rest) := by
  cases items <;> exact endsNumber_cons rfl (by decide)

theorem endsNumber_writeMembers (members : List (String × Json)) (rest : List Char) :
    EndsNumber (writeMembers members ++ rest) := by
  cases members <;> exact endsNumber_cons rfl (by decide)

theorem readItems_write {strict : Bool} {fuel depth : Nat} {item : Json} {items : List Json}
    {rest : List Char} (each : ∀ value ∈ item :: items, ReadBack strict depth value)
    (enough : 2 * (write item ++ writeItems items).length + 1 ≤ fuel) :
    readItems strict fuel depth (write item ++ (writeItems items ++ rest)) =
      .ok (item :: items, rest) := by
  -- the induction is on the items behind the first, whose text begins with a comma
  induction items generalizing item fuel with
  | nil =>
    cases fuel with
    | zero => omega
    | succ fuel =>
      rw [List.length_append] at enough
      rw [readItems, each item List.mem_cons_self _ _ (by omega) (endsNumber_writeItems [] rest)]
      rfl
  | cons next items ih =>
    cases fuel with
    | zero => omega
    | succ fuel =>
      simp only [writeItems, List.length_append, List.length_cons] at enough
      have tail : readItems strict fuel depth (write next ++ (writeItems items ++ rest)) = _ :=
        ih (fun value mem => each value (List.mem_cons_of_mem _ mem))
          (by rw [List.length_append]; omega)
      obtain ⟨c, others, shape, space, bracket⟩ := write_eq_cons next
      rw [readItems, each item List.mem_cons_self _ _ (by omega)
        (endsNumber_writeItems (next :: items) rest)]
      simp only [writeItems, List.cons_append, List.append_assoc]
      rw [shape, List.cons_append] at tail ⊢
      have comma : isSpace ',' = false := rfl
      simp [skipSpace_cons, comma, space, bracket, tail, Except.map]

/-- The text of a member behind its opening quote, in front of what follows. -/
theorem readMembers_write {strict : Bool} {fuel depth : Nat} {m : String × Json}
    {members : List (String × Json)} {rest : List Char}
    (each : ∀ member ∈ m :: members, ReadBack strict depth member.2)
    (enough : 2 * (write m.2 ++ writeMembers members).length + 1 ≤ fuel) :
    readMembers strict fuel depth
        (m.1.toList.flatMap escape ++ '"' :: ':' :: (write m.2 ++ (writeMembers members ++ rest))) =
      .ok (some (m :: members), rest) := by
  have colon (text : List Char) : readColon (':' :: text) = .ok text := rfl
  -- as with items, but the opening quote of the first name is already read
  induction members generalizing m fuel with
  | nil =>
    cases fuel with
    | zero => omega
    | succ fuel =>
      rw [List.length_append] at enough
      rw [readMembers, readName_flatMap]
      dsimp only
      rw [colon]
      dsimp only
      rw [each m List.mem_cons_self _ _ (by omega) (endsNumber_writeMembers [] rest)]
      rfl
  | cons next members ih =>
    cases fuel with
    | zero => omega
    | succ fuel =>
      simp only [writeMembers, quoted, List.length_append, List.length_cons] at enough
      have tail : readMembers strict fuel depth (next.1.toList.flatMap escape ++
          '"' :: ':' :: (write next.2 ++ (writeMembers members ++ rest))) = _ :=
        ih (fun member mem => each member (List.mem_cons_of_mem _ mem))
          (by rw [List.length_append]; omega)
      have comma : isSpace ',' = false := rfl
      have quote : isSpace '"' = false := rfl
      rw [readMembers, readName_flatMap]
      dsimp only
      rw [colon]
      dsimp only
      rw [each m List.mem_cons_self _ _ (by omega) (endsNumber_writeMembers (next :: members) rest)]
      simp [writeMembers, quoted, skipSpace_cons, comma, quote, tail, Except.map, Members.push]

theorem readValue_integer {strict : Bool} {fuel depth : Nat} {n : Int} {rest : List Char}
    (fits : Fits n) (ends : EndsNumber rest) :
    readValue strict (fuel + 1) depth (signedDigits n ++ rest) = .ok (.integer n, rest) := by
  have least : Int64.minValue.toInt.natAbs = 9223372036854775808 := rfl
  have low : -9223372036854775808 ≤ n := fits.1
  have large : (9223372036854775808 : Nat) ≤ maxWord := by decide
  -- a sign is read before the digits, and the least number is one larger than the largest without
  -- sign
  cases n with
  | ofNat n =>
    obtain ⟨c, others, shape, digit, -⟩ := digits_eq_cons n
    rw [signedDigits, shape, List.cons_append, readValue_digit digit, ← List.cons_append, ← shape]
    exact readNumber_digits (Int.ofNat_le.mp fits.2) nofun ends
  | negSucc n =>
    have small : n + 1 ≤ 9223372036854775808 := by omega
    rw [signedDigits, List.cons_append, readValue, skipSpace_cons rfl]
    exact readNumber_digits (Nat.le_trans small large)
      (fun _ => ⟨Nat.succ_pos n, least ▸ small⟩) ends

/-- **Round trip.** A value is read back from its compact text. -/
theorem readValue_write (strict : Bool) {depth : Nat} {value : Json} (exact : Exact depth value) :
    ReadBack strict depth value := by
  -- every text of a value holds a character, so there is fuel for a call
  have fuelled {value : Json} {fuel : Nat} (enough : 2 * (write value).length ≤ fuel) :
      ∃ less, fuel = less + 1 := by
    obtain ⟨c, others, shape, -⟩ := write_eq_cons value
    rw [shape, List.length_cons] at enough
    exact ⟨fuel - 1, by omega⟩
  induction exact with
  | null =>
    intro fuel rest enough ends
    obtain ⟨fuel, rfl⟩ := fuelled enough
    rfl
  | bool value =>
    intro fuel rest enough ends
    obtain ⟨fuel, rfl⟩ := fuelled enough
    cases value <;> rfl
  | integer fits =>
    intro fuel rest enough ends
    obtain ⟨fuel, rfl⟩ := fuelled enough
    exact readValue_integer fits ends
  | string text =>
    intro fuel rest enough ends
    obtain ⟨fuel, rfl⟩ := fuelled enough
    have quote : isSpace '"' = false := rfl
    simp [write, quoted, readValue, skipSpace_cons, quote, readString_flatMap, Except.map]
  | @array depth items each ih =>
    -- the induction hypothesis reads each item, and one level of the depth is used up
    intro fuel rest enough ends
    obtain ⟨fuel, rfl⟩ := fuelled enough
    have bracket : isSpace '[' = false := rfl
    have closing : isSpace ']' = false := rfl
    cases items with
    | nil => simp [write, readValue, skipSpace_cons, bracket, closing]
    | cons item items =>
      rw [write, List.length_cons] at enough
      have inner : readItems strict fuel depth (write item ++ (writeItems items ++ rest)) = _ :=
        readItems_write ih (by omega)
      obtain ⟨c, others, shape, space, other⟩ := write_eq_cons item
      rw [shape, List.cons_append] at inner
      simp [write, shape, readValue, skipSpace_cons, bracket, space, other, inner, Except.map]
  | @object depth members each ih =>
    intro fuel rest enough ends
    obtain ⟨fuel, rfl⟩ := fuelled enough
    have brace : isSpace '\x7b' = false := rfl
    have closing : isSpace '\x7d' = false := rfl
    have quote : isSpace '"' = false := rfl
    cases members with
    | nil => simp [write, readValue, skipSpace_cons, brace, closing]
    | cons m members =>
      simp only [write, quoted, List.length_append, List.length_cons] at enough
      have inner : readMembers strict fuel depth (m.1.toList.flatMap escape ++
          '"' :: ':' :: (write m.2 ++ (writeMembers members ++ rest))) = _ :=
        readMembers_write ih (by rw [List.length_append]; omega)
      simp [write, quoted, readValue, skipSpace_cons, brace, quote, inner, Except.map, ofMembers]

/-- A whole text is read back when no more containers are open in it than a reader allows. -/
theorem read_render {value : Json} (exact : Exact maxDepth value) :
    read (render value) = .ok value := by
  have whole := readValue_write true exact (2 * value.write.length + 1) [] (by omega) nofun
  rw [List.append_nil] at whole
  rw [read, render, String.toList_ofList, readWith, whole]
  rfl

end AzcRepair.Json
