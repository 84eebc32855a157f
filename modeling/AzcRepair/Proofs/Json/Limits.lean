import AzcRepair.Json.Reader
import AzcRepair.Proofs.Json.RoundTrip

/-!
# What a strict reader takes

A strict reader takes what a lenient one takes, unless too many containers are open at once or a
part of the value is unreadable: a number beyond the range of doubles, or a string with half of a
surrogate pair. So a lenient reader knows the grammar of the texts, and a strict one adds these
limits to it.

* `Within` — the values within the limits.
* `Agree` — what two readers may make of one text; `ValuesAgree`, `ItemsAgree`, `MembersAgree` say
  it of the readers of values.
* `read_eq_ok_iff` — the strict reader, in terms of the lenient one.
* `exists_members_of_brace` — a text that begins with a brace is an object within the limits.
* `readAnything_render` — a lenient reader reads back what was written, however deep it is.
-/

namespace AzcRepair.Json

/-- At most so many containers are open at once, and every part of the value is readable. -/
inductive Within : Nat → Json → Prop
  | null {depth : Nat} : Within depth .null
  | bool {depth : Nat} (value : Bool) : Within depth (.bool value)
  | integer {depth : Nat} (value : Int) : Within depth (.integer value)
  | decimal {depth : Nat} (mantissa exponent : Int) : Within depth (.decimal mantissa exponent)
  | string {depth : Nat} (text : String) : Within depth (.string text)
  | array {depth : Nat} {items : List Json} (each : ∀ item ∈ items, Within depth item) :
    Within (depth + 1) (.array items)
  | object {depth : Nat} {members : List (String × Json)} (each : ∀ m ∈ members, Within depth m.2) :
    Within (depth + 1) (.object members)

/-! ## Two readers

The strict and the lenient reader run the same code with one flag apart, so they are compared call
by call. `Agree` leaves three possibilities for each call; the fourth, that only the strict reader
takes something, never arises. -/

variable {α β : Type} {P : α → Prop} {Q : β → Prop} {strict lenient : Except Fault (α × List Char)}

/-- A strict and a lenient reader took the same, which fits; or both refused the text; or only the
lenient one took something, and it does not fit. -/
inductive Agree (P : α → Prop) :
    Except Fault (α × List Char) → Except Fault (α × List Char) → Prop
  | taken {read : α × List Char} (fits : P read.1) : Agree P (.ok read) (.ok read)
  | refused (one other : Fault) : Agree P (.error one) (.error other)
  | beyond (fault : Fault) {read : α × List Char} (unfit : ¬ P read.1) :
    Agree P (.error fault) (.ok read)

theorem Agree.ok_iff (agree : Agree P strict lenient) (read : α × List Char) :
    strict = .ok read ↔ lenient = .ok read ∧ P read.1 := by
  cases agree with
  | taken fits =>
    constructor
    · rintro ⟨⟩
      exact ⟨rfl, fits⟩
    · exact And.left
  | refused one other => simp
  | beyond fault unfit =>
    constructor
    · intro taken
      cases taken
    · rintro ⟨⟨⟩, fits⟩
      exact absurd fits unfit

theorem Agree.map (agree : Agree P strict lenient) {f : α × List Char → β × List Char}
    (same : ∀ read, Q (f read).1 ↔ P read.1) : Agree Q (strict.map f) (lenient.map f) := by
  -- nothing is taken or refused anew by what is done to the result
  cases agree with
  | taken fits => exact .taken ((same _).mpr fits)
  | refused one other => exact .refused one other
  | beyond fault unfit => exact .beyond fault (mt (same _).mp unfit)

/-- Whatever the lenient reader goes on to take, the whole does not fit. -/
theorem agree_beyond (fault : Fault) (lenient : Except Fault (α × List Char))
    {f : α × List Char → β × List Char} (unfit : ∀ read, ¬ Q (f read).1) :
    Agree Q (.error fault) (lenient.map f) := by
  cases lenient with
  | error other => exact .refused fault other
  | ok read => exact .beyond fault (unfit read)

/-! ## Strings

A lone half of a surrogate pair is where the two readers part: the strict one refuses the text at
once, and the lenient one reads on but gives up the value. Hence `Readable` takes the place of
`Within` here. -/

/-- What was read has a value. -/
def Readable (value : Option α) : Prop :=
  value.isSome = true

theorem readable_map {value : Option α} {f : α → β} : Readable (value.map f) ↔ Readable value := by
  rw [Readable, Option.isSome_map, Readable]

theorem exists_badUnit_eq (text : List Char) : ∃ fault, badUnit text = .error fault := by
  unfold badUnit
  split <;> exact ⟨_, rfl⟩

theorem exists_missingPartner_eq (text : List Char) :
    ∃ fault, missingPartner text = .error fault := by
  unfold missingPartner
  split
  · exact exists_badUnit_eq _
  all_goals exact ⟨_, rfl⟩

theorem agree_badUnit (text : List Char) : Agree Readable (badUnit text) (badUnit text) := by
  obtain ⟨fault, refused⟩ := exists_badUnit_eq text
  rw [refused]
  exact .refused fault fault

/-- Half of a surrogate pair passes a lenient reader, who gives up the value of the string. -/
theorem agree_lone (fault : Fault) (other strict lenient : StringRead) :
    Agree Readable (StringRead.lone true (.error fault) strict)
      (StringRead.lone false other lenient) :=
  agree_beyond fault lenient fun _ => nofun

theorem agree_push {strict lenient : StringRead} (agree : Agree Readable strict lenient)
    (c : Char) : Agree Readable (strict.push c) (lenient.push c) :=
  agree.map fun _ => readable_map

theorem readString_agree (text : List Char) :
    Agree Readable (readString true text) (readString false text) := by
  -- each case of the strict reader is one of the lenient reader
  fun_induction readString true text
  all_goals simp only [readString, *, if_true, if_false, Bool.false_eq_true]
  case case2 => exact .taken rfl
  case case3 | case5 | case10 => exact agree_badUnit _
  case case4 | case7 => exact agree_lone _ _ _ _
  case case8 rest _ _ =>
    obtain ⟨fault, refused⟩ := exists_missingPartner_eq rest
    rw [refused]
    exact agree_lone fault _ _ _
  case case6 ih | case9 ih | case11 ih | case15 ih => exact agree_push ih _
  all_goals exact .refused _ _

theorem readName_agree (text : List Char) :
    Agree Readable (readName true text) (readName false text) :=
  (readString_agree text).map fun _ => readable_map

/-! ## Numbers and words

A number is unreadable when it lies beyond the range of doubles. Everything else about numbers and
the three words is the same for both readers, and opens no container. -/

theorem not_within_unreadable (depth : Nat) : ¬ Within depth .unreadable := by
  intro within
  cases within

theorem within_of_value? {negative : Bool} {literal : Literal} {value : Json}
    (given : literal.value? negative = some value) (depth : Nat) : Within depth value := by
  unfold Literal.value? at given
  dsimp only at given
  split at given
  · cases given
    exact .integer _
  · split at given
    · cases given
    · cases given
      exact .decimal _ _

theorem readNumber_agree (negative : Bool) (text : List Char) (depth : Nat) :
    Agree (Within depth) (readNumber true negative text) (readNumber false negative text) := by
  simp only [readNumber, bind, Except.bind]
  -- whole part, fraction and exponent are read alike
  -- the next lines are the order of the reader
  split
  · exact .refused _ _
  split
  · exact .refused _ _
  split
  · exact .refused _ _
  split
  · next given => exact .taken (within_of_value? given depth)
  · exact .beyond _ (not_within_unreadable depth)

theorem readWord_agree {depth : Nat} {value : Json} (within : Within depth value)
    (word text : List Char) :
    Agree (Within depth) (readWord value word text) (readWord value word text) := by
  fun_induction readWord value word text with
  | case1 text => exact .taken within
  | case3 _ _ _ ih => exact ih
  | case2 | case4 => exact .refused _ _

/-! ## Values

The three readers of values call each other with less and less fuel. So the agreement of all three
at some fuel follows from that of all three at one less, with one lemma for each of them. -/

variable {fuel depth : Nat}

def AllWithin (depth : Nat) (items : List Json) : Prop :=
  ∀ item ∈ items, Within depth item

/-- Every member has a name, and its value is within the limits. -/
def MembersWithin (depth : Nat) (members : Members) : Prop :=
  ∃ named, members = some named ∧ ∀ m ∈ named, Within depth m.2

theorem within_array {items : List Json} :
    Within (depth + 1) (.array items) ↔ AllWithin depth items := by
  constructor
  · rintro (_ | _ | _ | _ | _ | ⟨each⟩)
    exact each
  · exact .array

theorem not_within_array (items : List Json) : ¬ Within 0 (.array items) := by
  intro within
  cases within

theorem within_ofMembers {members : Members} :
    Within (depth + 1) (ofMembers members) ↔ MembersWithin depth members := by
  constructor
  · cases members with
    | none => exact fun within => absurd within (not_within_unreadable _)
    | some members =>
      rintro (_ | _ | _ | _ | _ | _ | ⟨each⟩)
      exact ⟨members, rfl, each⟩
  · -- members with names make an object, whose limits are theirs
    rintro ⟨named, rfl, each⟩
    exact .object each

theorem not_within_ofMembers (members : Members) : ¬ Within 0 (ofMembers members) := by
  intro within
  cases members with
  | none => exact not_within_unreadable 0 within
  | some members => cases within

theorem membersWithin_push {name : Option String} {value : Json} {members : Members} :
    MembersWithin depth (members.push name value) ↔
      Readable name ∧ Within depth value ∧ MembersWithin depth members := by
  cases name with
  | none => simp [MembersWithin, Members.push, Readable]
  | some name =>
    cases members with
    | none => simp [MembersWithin, Members.push]
    | some members => simp [MembersWithin, Members.push, Readable, -Prod.forall]

/-- With so much fuel the readers agree on values, however deep the lenient one is allowed to go. -/
def ValuesAgree (fuel : Nat) : Prop :=
  ∀ depth other text,
    Agree (Within depth) (readValue true fuel depth text) (readValue false fuel other text)

def ItemsAgree (fuel : Nat) : Prop :=
  ∀ depth other text,
    Agree (AllWithin depth) (readItems true fuel depth text) (readItems false fuel other text)

def MembersAgree (fuel : Nat) : Prop :=
  ∀ depth other text, Agree (MembersWithin depth) (readMembers true fuel depth text)
    (readMembers false fuel other text)

theorem valuesAgree_succ (items : ItemsAgree fuel) (members : MembersAgree fuel) :
    ValuesAgree (fuel + 1) := by
  intro depth other text
  rw [readValue, readValue]
  generalize skipSpace text = text
  -- the cases are those of the first character, in the order of the reader
  split
  case h_1 => exact .refused _ _
  case h_2 => exact readWord_agree .null _ _
  case h_3 => exact readWord_agree (.bool true) _ _
  case h_4 => exact readWord_agree (.bool false) _ _
  case h_5 =>
    refine (readString_agree _).map fun read => ?_
    obtain ⟨chars, rest⟩ := read
    cases chars with
    | none => exact iff_of_false (not_within_unreadable depth) Bool.false_ne_true
    | some chars => exact iff_of_true (.string _) rfl
  case h_6 =>
    rw [Bool.false_and, if_neg Bool.false_ne_true]
    cases depth with
    | zero =>
      -- the strict reader opens no further array, and no array that the lenient one takes fits
      rw [if_pos (by simp)]
      split
      · exact .refused _ _
      · exact .beyond _ (not_within_array [])
      · exact agree_beyond _ _ fun _ => not_within_array _
    | succ depth =>
      rw [if_neg (by simp)]
      split
      · exact .refused _ _
      · exact .taken (.array (List.forall_mem_nil _))
      · exact (items depth _ _).map fun _ => within_array
  case h_7 =>
    rw [Bool.false_and, if_neg Bool.false_ne_true]
    cases depth with
    | zero =>
      rw [if_pos (by simp)]
      split
      · exact .refused _ _
      · exact .beyond _ (not_within_ofMembers (some []))
      · exact agree_beyond _ _ fun _ => not_within_ofMembers _
      · exact .refused _ _
    | succ depth =>
      rw [if_neg (by simp)]
      split
      · exact .refused _ _
      · exact .taken (.object (List.forall_mem_nil _))
      · exact (members depth _ _).map fun _ => within_ofMembers
      · exact .refused _ _
  case h_8 => exact readNumber_agree _ _ _
  case h_9 =>
    split
    · exact readNumber_agree _ _ _
    · exact .refused _ _

theorem itemsAgree_succ (values : ValuesAgree fuel) (items : ItemsAgree fuel) :
    ItemsAgree (fuel + 1) := by
  intro depth other text
  have agree := values depth other text
  rw [readItems, readItems]
  generalize readValue true fuel depth text = strict at agree ⊢
  generalize readValue false fuel other text = lenient at agree ⊢
  cases agree with
  | refused one other => exact .refused one other
  | @taken read fits =>
    dsimp only
    split
    · exact .refused _ _
    · exact .taken (List.forall_mem_singleton.mpr fits)
    · split
      · exact .refused _ _
      · exact .refused _ _
      · exact (items depth other _).map fun _ => by simp [AllWithin, fits]
    · exact .refused _ _
  | @beyond fault read unfit =>
    -- the item that does not fit is the first of those that the lenient reader takes
    have whole (more : List Json) : ¬ AllWithin depth (read.1 :: more) :=
      fun each => unfit (each _ List.mem_cons_self)
    dsimp only
    split
    · exact .refused _ _
    · exact .beyond _ (whole [])
    · split
      · exact .refused _ _
      · exact .refused _ _
      · exact agree_beyond _ _ fun _ => whole _
    · exact .refused _ _

theorem membersAgree_succ (values : ValuesAgree fuel) (members : MembersAgree fuel) :
    MembersAgree (fuel + 1) := by
  intro depth other text
  have agree := readName_agree text
  rw [readMembers, readMembers]
  generalize readName true text = strict at agree ⊢
  generalize readName false text = lenient at agree ⊢
  -- first the name is compared, and behind the colon the value
  cases agree with
  | refused one other => exact .refused one other
  | @taken read named =>
    dsimp only
    split
    · exact .refused _ _
    next behind _ =>
    have agree := values depth other behind
    generalize readValue true fuel depth behind = strict at agree ⊢
    generalize readValue false fuel other behind = lenient at agree ⊢
    cases agree with
    | refused one other => exact .refused one other
    | @taken value fits =>
      have single : MembersWithin depth (Members.push read.1 value.1 (some [])) :=
        membersWithin_push.mpr ⟨named, fits, [], rfl, List.forall_mem_nil _⟩
      dsimp only
      split
      · exact .refused _ _
      · exact .taken single
      · split
        · exact .refused _ _
        · exact (members depth other _).map fun _ => by simp [membersWithin_push, named, fits]
        · exact .refused _ _
        · exact .refused _ _
      · exact .refused _ _
    | @beyond fault value unfit =>
      -- the value of this member does not fit, whatever members follow
      have whole (more : Members) : ¬ MembersWithin depth (more.push read.1 value.1) :=
        fun within => unfit (membersWithin_push.mp within).2.1
      dsimp only
      split
      · exact .refused _ _
      · exact .beyond _ (whole _)
      · split
        · exact .refused _ _
        · exact agree_beyond _ _ fun _ => whole _
        · exact .refused _ _
        · exact .refused _ _
      · exact .refused _ _
  | @beyond fault read unnamed =>
    -- the name is unreadable, so the lenient reader goes on alone
    have whole {value : Json} (more : Members) :
        ¬ MembersWithin depth (more.push read.1 value) :=
      fun within => unnamed (membersWithin_push.mp within).1
    dsimp only
    split
    · exact .refused _ _
    split
    · exact .refused _ _
    split
    · exact .refused _ _
    · exact .beyond _ (whole _)
    · split
      · exact .refused _ _
      · exact agree_beyond _ _ fun _ => whole _
      · exact .refused _ _
      · exact .refused _ _
    · exact .refused _ _

/-- Strict and lenient readers agree on every text. -/
theorem readers_agree (fuel : Nat) : ValuesAgree fuel ∧ ItemsAgree fuel ∧ MembersAgree fuel := by
  -- without fuel all of them refuse
  induction fuel with
  | zero =>
    refine ⟨fun depth other text => ?_, fun depth other text => ?_, fun depth other text => ?_⟩
    · rw [readValue, readValue]
      exact .refused _ _
    · rw [readItems, readItems]
      exact .refused _ _
    · rw [readMembers, readMembers]
      exact .refused _ _
  | succ fuel ih =>
    obtain ⟨values, items, members⟩ := ih
    exact ⟨valuesAgree_succ items members, itemsAgree_succ values items,
      membersAgree_succ values members⟩

/-- **The limits of a strict reader.** It takes the texts that a lenient one takes, when the value
is within the limits. -/
theorem read_eq_ok_iff {text : String} {value : Json} :
    read text = .ok value ↔ readAnything text = some value ∧ Within maxDepth value := by
  have agree := (readers_agree (2 * text.toList.length + 1)).1 maxDepth maxDepth text.toList
  rw [read, readAnything, readWith, readWith]
  generalize readValue true _ maxDepth text.toList = strict at agree ⊢
  generalize readValue false _ maxDepth text.toList = lenient at agree ⊢
  cases agree with
  | refused one other => simp [Except.toOption]
  | @taken read fits =>
    dsimp only
    split
    · constructor
      · rintro ⟨⟩
        exact ⟨rfl, fits⟩
      · rintro ⟨⟨⟩, -⟩
        rfl
    · simp [Except.toOption]
  | @beyond fault read unfit =>
    dsimp only
    split
    · constructor
      · intro read
        cases read
      · rintro ⟨⟨⟩, fits⟩
        exact absurd fits unfit
    · simp [Except.toOption]

theorem readValue_brace {strict : Bool} {other : Nat} {text rest : List Char} {value : Json}
    (taken : readValue strict fuel other ('\x7b' :: text) = .ok (value, rest)) :
    ∃ members, value = ofMembers members := by
  cases fuel with
  | zero =>
    rw [readValue] at taken
    cases taken
  | succ fuel =>
    have brace : skipSpace ('\x7b' :: text) = '\x7b' :: text :=
      List.dropWhile_cons_of_neg (by decide)
    rw [readValue, brace] at taken
    simp only at taken
    -- too deep, closed at once, members up to the end, or no name behind the brace
    split at taken
    · cases taken
    split at taken
    · cases taken
    · cases taken
      exact ⟨some [], rfl⟩
    · cases inside : readMembers strict fuel (other - 1) _ with
      | error fault =>
        rw [inside] at taken
        cases taken
      | ok read =>
        rw [inside] at taken
        cases taken
        exact ⟨read.1, rfl⟩
    · cases taken

theorem exists_members_of_brace {text : String} {rest : List Char} {value : Json}
    (starts : text.toList = '\x7b' :: rest) (given : readAnything text = some value)
    (within : Within depth value) : ∃ members, value = .object members := by
  rw [readAnything, readWith, starts] at given
  cases taken : readValue false (2 * ('\x7b' :: rest).length + 1) maxDepth ('\x7b' :: rest) with
  | error fault =>
    rw [taken] at given
    cases given
  | ok read =>
    obtain ⟨members, shape⟩ := readValue_brace taken
    rw [taken] at given
    dsimp only at given
    split at given
    · cases given
      -- members without a readable name would make the whole unreadable
      cases members with
      | none =>
        rw [shape] at within
        cases within
      | some members => exact ⟨members, shape⟩
    · cases given

/-- What was written is read back leniently, however many containers are open at once. -/
theorem readAnything_render {value : Json} (exact : Exact depth value) :
    readAnything (render value) = some value := by
  -- a strict reader that allows for the depth reads it back, so every lenient one does
  have strict := readValue_write true exact (2 * value.write.length + 1) [] (by omega) nofun
  rw [List.append_nil] at strict
  have agree := (readers_agree (2 * value.write.length + 1)).1 depth maxDepth value.write
  rw [readAnything, readWith, render, String.toList_ofList, ((agree.ok_iff _).mp strict).1]
  rfl

end AzcRepair.Json
