import AzcRepair.Contract.Reply

/-!
# Which blocks are found

The search for the last block counts the braces of a text from its end, all of them alike, and stops
where they balance for the first time. It finds a block again exactly when the braces of the block,
counted so, balance at its front and nowhere before.

* `IsBlock` — the braces balance at the front and nowhere before.
* `lastBlock?_eq_iff` — these are the texts that are found again, whatever stands in front of them.
* `block_part_iff` — the same of replies.
* `Balanced` — every brace has its partner; `Balanced.isBlock` makes a block of such a text.
-/

namespace AzcRepair.Contract

/-! ## Counting

The two kinds of braces are counted apart from each other, and both counts go through
concatenation and do not depend on the direction. All that follows is arithmetic with them. -/

@[simp] theorem openings_nil : openings [] = 0 := rfl

@[simp] theorem closings_nil : closings [] = 0 := rfl

@[simp] theorem openings_append (front back : List Char) :
    openings (front ++ back) = openings front + openings back :=
  List.count_append

@[simp] theorem closings_append (front back : List Char) :
    closings (front ++ back) = closings front + closings back :=
  List.count_append

theorem openings_cons (c : Char) (text : List Char) :
    openings (c :: text) = openings text + if c = openBrace then 1 else 0 := by
  simp [openings, List.count_cons]

theorem closings_cons (c : Char) (text : List Char) :
    closings (c :: text) = closings text + if c = closeBrace then 1 else 0 := by
  simp [closings, List.count_cons]

@[simp] theorem openings_reverse (text : List Char) : openings text.reverse = openings text :=
  List.count_reverse

@[simp] theorem closings_reverse (text : List Char) : closings text.reverse = closings text :=
  List.count_reverse

/-! ## Walking back

The walk keeps the number of braces that still wait for a partner. `Closes` says without the walk
when this number comes down to nothing at a given place: it does so there, and at no place before
it. The proof that this is what the walk does is an induction on what is walked over. -/

/-- Walking back over `taken`, an opening brace balances for the first time behind it. -/
structure Closes (depth : Nat) (taken : List Char) : Prop where
  settles : openings taken + 1 = depth + closings taken
  waits : ∀ part, part <+: taken → openings part < depth + closings part

theorem closes_nil {depth : Nat} : Closes depth [] ↔ depth = 1 := by
  constructor
  · intro closes
    exact closes.settles.symm
  · rintro rfl
    exact ⟨rfl, fun part h => by simp [List.prefix_nil.mp h]⟩

/-- A character is passed over: the rest has to close from the number that waits behind it. -/
theorem closes_cons {depth next : Nat} {c : Char} {taken : List Char} (waiting : 0 < depth)
    (step : openings [c] + next = depth + closings [c]) :
    Closes depth (c :: taken) ↔ Closes next taken := by
  have open_cons (text : List Char) : openings (c :: text) = openings [c] + openings text :=
    openings_append [c] text
  have close_cons (text : List Char) : closings (c :: text) = closings [c] + closings text :=
    closings_append [c] text
  constructor
  · -- what was waiting behind `c` still waits: put `c` in front of the part
    rintro ⟨settles, waits⟩
    rw [open_cons, close_cons] at settles
    refine ⟨by omega, fun part h => ?_⟩
    have longer := waits (c :: part) (List.cons_prefix_cons.mpr ⟨rfl, h⟩)
    rw [open_cons, close_cons] at longer
    omega
  · rintro ⟨settles, waits⟩
    refine ⟨by rw [open_cons, close_cons]; omega, fun part h => ?_⟩
    obtain rfl | ⟨rest, rfl, inside⟩ := List.prefix_cons_iff.mp h
    · exact waiting
    · have shorter := waits rest inside
      rw [open_cons, close_cons]
      omega

/-- A block that is found is longer than what the walk has taken so far. -/
theorem length_lt_of_blockBack {depth : Nat} {block before found : List Char}
    (h : blockBack depth block before = some found) : block.length < found.length := by
  -- every step takes another character into the block, the last one included
  induction before generalizing depth block with
  | nil => cases h
  | cons c before ih =>
    have longer {next : Nat} (h : blockBack next (c :: block) before = some found) :
        block.length < found.length := Nat.lt_of_succ_lt (ih h)
    rw [blockBack] at h
    split at h
    · exact longer h
    · split at h
      · split at h
        · cases h
          exact Nat.lt_succ_self _
        · exact longer h
      · exact longer h

/-- The walk stops at an opening brace exactly when the braces balance there for the first time. -/
theorem blockBack_eq_iff {depth : Nat} (waiting : 0 < depth) (block taken rest : List Char) :
    blockBack depth block (taken ++ openBrace :: rest) =
        some (openBrace :: (taken.reverse ++ block)) ↔ Closes depth taken := by
  -- the induction is on what is walked over; each character hands its depth on to the next
  induction taken generalizing depth block with
  | nil =>
    rw [closes_nil, List.nil_append, blockBack, if_neg (by decide), if_pos rfl]
    constructor
    · intro found
      by_cases last : depth = 1
      · exact last
      · rw [if_neg last] at found
        exact absurd (length_lt_of_blockBack found) (Nat.lt_irrefl _)
    · intro last
      rw [if_pos last]
      rfl
  | cons c taken ih =>
    have shape : openBrace :: ((c :: taken).reverse ++ block) =
        openBrace :: (taken.reverse ++ c :: block) := by simp
    rw [shape, List.cons_append, blockBack]
    by_cases close : c = closeBrace
    · rw [if_pos close, ih (Nat.succ_pos depth), ← closes_cons waiting]
      simp [openings_cons, closings_cons, close]
      decide
    · rw [if_neg close]
      by_cases opens : c = openBrace
      · rw [if_pos opens]
        by_cases last : depth = 1
        · -- the walk stops too early, with a block that is too short
          rw [if_pos last]
          constructor
          · intro found
            have lengths := congrArg List.length (Option.some.inj found)
            simp only [List.length_cons, List.length_append, List.length_reverse] at lengths
            omega
          · intro closes
            have first := closes.waits [openBrace] (by rw [opens]; exact List.prefix_append _ taken)
            rw [last] at first
            exact absurd first (by decide)
        · rw [if_neg last, ih (Nat.sub_pos_of_lt (by omega)), ← closes_cons waiting]
          simp only [openings_cons, closings_cons, opens, openings_nil, closings_nil, if_true]
          rw [if_neg (by decide)]
          omega
      · rw [if_neg opens, ih waiting, ← closes_cons waiting]
        simp [openings_cons, closings_cons, close, opens]

/-! ## Blocks

From the end of a text the last closing brace is sought first, and the walk begins in front of it.
Read forwards, the braces of the block balance at its front and nowhere before; the text behind
the block holds no closing brace, and the text in front of it does not matter. -/

/-- The braces of a text, counted from its end, balance at its front and nowhere before. -/
structure IsBlock (text : List Char) : Prop where
  even : openings text = closings text
  waits : ∀ tail, tail <:+ text.tail → tail ≠ [] → openings tail < closings tail

/-- A text in braces is a block exactly when the walk back over its inside closes at its front. -/
theorem isBlock_iff (inner : List Char) :
    IsBlock (openBrace :: (inner ++ [closeBrace])) ↔ Closes 1 inner.reverse := by
  have even : openings (openBrace :: (inner ++ [closeBrace])) = openings inner + 1 := by
    simp [openings_cons, openBrace, closeBrace]
  have uneven : closings (openBrace :: (inner ++ [closeBrace])) = closings inner + 1 := by
    simp [closings_cons, openBrace, closeBrace]
  -- a tail that holds the last brace is, read backwards, that brace and a part of the rest
  have last (part : List Char) : openings (part.reverse ++ [closeBrace]) = openings part ∧
      closings (part.reverse ++ [closeBrace]) = closings part + 1 := by
    simp [openings_cons, closings_cons, openBrace, closeBrace]
  constructor
  · rintro ⟨balance, waits⟩
    refine ⟨?_, fun part h => ?_⟩
    · rw [even, uneven] at balance
      rw [openings_reverse, closings_reverse]
      omega
    · have tail := waits (part.reverse ++ [closeBrace])
        ((List.suffix_append_self_iff).mpr (List.reverse_prefix.mp (by simpa using h))) (by simp)
      rw [(last part).1, (last part).2] at tail
      omega
  · rintro ⟨settles, waits⟩
    rw [openings_reverse, closings_reverse] at settles
    refine ⟨by rw [even, uneven]; omega, fun tail h nonempty => ?_⟩
    obtain rfl | ⟨part, rfl, inside⟩ := List.suffix_concat_iff.mp h
    · exact absurd rfl nonempty
    · have waiting := waits part.reverse (List.reverse_prefix.mpr inside)
      have counted := last part.reverse
      rw [List.reverse_reverse] at counted
      rw [counted.1, counted.2]
      omega

/-- **The search finds a block again exactly when its braces, counted from the end, balance at its
front and nowhere before**, whatever stands in front of it. -/
theorem lastBlock?_eq_iff {back : List Char} (plain : closeBrace ∉ back)
    (front inner : List Char) :
    lastBlock? (front ++ (openBrace :: (inner ++ [closeBrace]) ++ back)) =
        some (openBrace :: (inner ++ [closeBrace])) ↔
      IsBlock (openBrace :: (inner ++ [closeBrace])) := by
  -- read backwards, the prose behind the block is passed over up to the brace that ends the block
  have backwards : (front ++ (openBrace :: (inner ++ [closeBrace]) ++ back)).reverse =
      back.reverse ++ closeBrace :: (inner.reverse ++ openBrace :: front.reverse) := by simp
  have skipped : ∀ c ∈ back.reverse, decide (c ≠ closeBrace) = true := by
    intro c mem
    refine decide_eq_true ?_
    rintro rfl
    exact plain (List.mem_reverse.mp mem)
  have found := blockBack_eq_iff Nat.one_pos [closeBrace] inner.reverse front.reverse
  rw [List.reverse_reverse] at found
  rw [isBlock_iff, ← found, lastBlock?, backwards, List.dropWhile_append_of_pos skipped,
    List.dropWhile_cons_of_neg (by simp)]

/-- What is found in a reply is what is found in its characters. -/
theorem block_eq_ok_iff {reply found : String} :
    block reply = .ok found ↔ lastBlock? reply.toList = some found.toList := by
  rw [block]
  cases lastBlock? reply.toList with
  | none => simp
  | some part => simp [← String.toList_inj]

/-- A part of a reply that stands in braces is found exactly when it is a block. -/
theorem block_part_iff {part back : String} {inner : List Char}
    (braces : part.toList = openBrace :: (inner ++ [closeBrace])) (front : String)
    (plain : closeBrace ∉ back.toList) :
    block (front ++ part ++ back) = .ok part ↔ IsBlock part.toList := by
  rw [block_eq_ok_iff, String.toList_append, String.toList_append, List.append_assoc, braces,
    lastBlock?_eq_iff plain]

/-! ## Balanced texts

A condition that is easier to meet. Balanced texts may be put one after another and in braces,
which is how the text of a value is made from the texts of its parts. It is not a necessary one: a
block needs only the sum of the braces to come out. -/

/-- Every brace of the text has its partner. -/
structure Balanced (text : List Char) : Prop where
  even : openings text = closings text
  tails : ∀ tail, tail <:+ text → openings tail ≤ closings tail

/-- A tail of two texts is one of the second, or ends with all of it. -/
theorem suffix_append_cases {front back tail : List Char} (h : tail <:+ front ++ back) :
    tail <:+ back ∨ ∃ part, part <:+ front ∧ tail = part ++ back := by
  obtain short | long := List.suffix_or_suffix_of_suffix h (List.suffix_append front back)
  · exact .inl short
  · obtain ⟨part, rfl⟩ := long
    exact .inr ⟨part, List.suffix_append_self_iff.mp h, rfl⟩

/-- Two balanced texts are balanced together, one behind the other. -/
theorem Balanced.append {front back : List Char} (first : Balanced front)
    (second : Balanced back) : Balanced (front ++ back) := by
  refine ⟨by simp [first.even, second.even], fun tail h => ?_⟩
  -- a tail lies in the second text, or reaches into the first
  obtain short | ⟨part, inside, rfl⟩ := suffix_append_cases h
  · exact second.tails tail short
  · have fewer := first.tails part inside
    rw [openings_append, closings_append, second.even]
    omega

def BraceFree (text : List Char) : Prop :=
  openBrace ∉ text ∧ closeBrace ∉ text

instance (text : List Char) : Decidable (BraceFree text) :=
  inferInstanceAs (Decidable (openBrace ∉ text ∧ closeBrace ∉ text))

theorem BraceFree.suffix {text tail : List Char} (free : BraceFree text) (h : tail <:+ text) :
    BraceFree tail :=
  ⟨fun mem => free.1 (h.mem mem), fun mem => free.2 (h.mem mem)⟩

theorem BraceFree.counts {text : List Char} (free : BraceFree text) :
    openings text = 0 ∧ closings text = 0 :=
  ⟨List.count_eq_zero.mpr free.1, List.count_eq_zero.mpr free.2⟩

/-- A text without braces has none that could lack a partner. -/
theorem BraceFree.balanced {text : List Char} (free : BraceFree text) : Balanced text := by
  refine ⟨free.counts.1.trans free.counts.2.symm, fun tail h => ?_⟩
  rw [(free.suffix h).counts.1]
  exact Nat.zero_le _

theorem Balanced.isBlock {inner : List Char} (balanced : Balanced inner) :
    IsBlock (openBrace :: (inner ++ [closeBrace])) := by
  refine ⟨?_, fun tail h nonempty => ?_⟩
  · have even := balanced.even
    simp [openings_cons, closings_cons, even, openBrace, closeBrace]
  · obtain rfl | ⟨part, rfl, inside⟩ := List.suffix_concat_iff.mp h
    · exact absurd rfl nonempty
    · have fewer := balanced.tails part inside
      simp [openings_cons, closings_cons, openBrace, closeBrace]
      omega

theorem IsBlock.balanced {text : List Char} (block : IsBlock text) : Balanced text := by
  refine ⟨block.even, fun tail h => ?_⟩
  cases text with
  | nil => simp [List.suffix_nil.mp h]
  | cons c text =>
    -- the whole text comes out even, and every tail of it but the empty one waits
    obtain rfl | inside := List.suffix_cons_iff.mp h
    · exact Nat.le_of_eq block.even
    · by_cases empty : tail = []
      · simp [empty]
      · exact Nat.le_of_lt (block.waits tail inside empty)

end AzcRepair.Contract
