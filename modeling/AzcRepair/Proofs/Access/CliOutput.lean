import AzcRepair.Access.CliOutput
import AzcRepair.Proofs.Access.Expiry
import AzcRepair.Proofs.Json.Decode
import AzcRepair.Proofs.Json.Limits

/-!
# Expiries that the tool prints

The tool gives the expiry of a token in Unix seconds, as a wall-clock time, or both ways. The token
that is read is the same for each of them. Where the two differ the seconds count, and the time only
when the seconds denote no instant.

* `Gives` — what the members of an object give under a name.
* `Prints` — a text gives a secret and its expiry, whatever else it holds.
* `toJson`, `prints_toJson` — such a text for every secret and every expiry.
* `read_of_prints`, `read_of_beyond` — how it is read, by the range of its seconds.
* `expiry_encodings_agree` — the token does not depend on the encoding of its expiry.
-/

namespace AzcRepair.Access.CliOutput

open Json (Field namedField?)

variable {members : List (String × Json)} {name text secret : String} {output : CliOutput}

/-! ## What a text gives

The tool prints an object with more members than the reader asks for, so a text is described by
what it gives under three names and by nothing else. A member that is null counts as a missing
one, and one that stands twice is given by no text. -/

/-- The values of the members of one name. -/
def under (name : String) (members : List (String × Json)) : List Json :=
  (members.filter (·.1 == name)).map (·.2)

/-- The members give a value under a name, and give it once. Without a value there is no member of
the name, or it is null. -/
def Gives (members : List (String × Json)) (name : String) : Option Json → Prop
  | some value => under name members = [value]
  | none => under name members = [] ∨ under name members = [.null]

/-- The seconds are a number of 63 bits and a sign. -/
def IsWord (seconds : Int) : Prop :=
  Int64.minValue.toInt ≤ seconds ∧ seconds ≤ Int64.maxValue.toInt

instance (seconds : Int) : Decidable (IsWord seconds) :=
  inferInstanceAs (Decidable (_ ∧ _))

/-- A text is an object that gives the secret and the expiry, among whatever other members. -/
def Prints (text : String) (output : CliOutput) : Prop :=
  ∃ members, Json.readAnything text = some (.object members) ∧
    Gives members "accessToken" (some (.string output.secret)) ∧
    Gives members "expires_on" (output.seconds.map .integer) ∧
    Gives members "expiresOn" (output.time.map .string)

/-- The object that gives a secret and its expiry and nothing else. -/
def toJson (output : CliOutput) : Json :=
  .object <| ("accessToken", .string output.secret) ::
    ((output.seconds.map fun seconds => ("expires_on", .integer seconds)).toList ++
      (output.time.map fun time => ("expiresOn", .string time)).toList)

/-- An object of just these members gives what it was made of. -/
theorem prints_toJson (fits : ∀ seconds ∈ output.seconds, Json.Fits seconds) :
    Prints output.toJson.render output := by
  obtain ⟨secret, seconds, time⟩ := output
  have exact : Json.Exact 1 (toJson ⟨secret, seconds, time⟩) := by
    -- the text is exact when each of its members is, and the seconds need their bound for this
    cases seconds with
    | none => cases time <;> simp [toJson]
    | some seconds =>
      have number : Json.Exact 0 (.integer seconds) := .integer (fits seconds rfl)
      cases time <;> simp [toJson, number]
  refine ⟨_, Json.readAnything_render exact, ?_⟩
  cases seconds <;> cases time <;> simp [Gives, under]

/-! ## How it is read

The three fields are read one by one, and the token is made of them. Everything that is said about
reading below is said for an output and not for a text. -/

/-- A field is read from the values under its name: none, one, or too many. -/
theorem namedField?_eq (name : String) (members : List (String × Json)) :
    namedField? members [name] =
      match under name members with
      | [] => some .absent
      | [value] => some (.given value)
      | _ => none := by
  rw [Json.namedField?_single, under]
  cases members.filter (·.1 == name) with
  | nil => rfl
  | cons m more => cases more <;> rfl

/-- A name that gives a value is read as this value. -/
theorem given_of_gives {value : Json} (gives : Gives members name (some value)) :
    namedField? members [name] = some (.given value) := by
  have alone : under name members = [value] := gives
  rw [namedField?_eq, alone]

theorem nullable_given {α : Type} {value : Json} (notNull : value ≠ .null)
    (decode : Json → Option α) : (Field.given value).nullable decode = (decode value).map some := by
  cases value with
  | null => exact absurd rfl notNull
  | _ => rfl

/-- A field that may be null is read from the value that is given, and is missing without one. -/
theorem nullable_of_gives {α β : Type} {said : Option β} {encode : β → Json}
    (notNull : ∀ x, encode x ≠ .null) (gives : Gives members name (said.map encode)) :
    ∃ field, namedField? members [name] = some field ∧ ∀ decode : Json → Option α,
      field.nullable decode = said.elim (some none) fun x => (decode (encode x)).map some := by
  cases said with
  | some x => exact ⟨_, given_of_gives gives, fun decode => nullable_given (notNull x) decode⟩
  | none =>
    -- a member that is missing and one that is null are read alike
    rcases gives with missing | isNull
    · refine ⟨.absent, ?_, fun decode => rfl⟩
      rw [namedField?_eq, missing]
    · refine ⟨.given .null, ?_, fun decode => rfl⟩
      rw [namedField?_eq, isNull]

/-- What is read of a text that gives a secret and an expiry. -/
theorem output_of_prints (prints : Prints text output) :
    (Json.readAnything text).bind ofJson? =
      (output.seconds.elim (some none) fun seconds =>
        (Json.signed64? (.integer seconds)).map some).map fun seconds =>
          ⟨output.secret, seconds, output.time⟩ := by
  obtain ⟨members, given, secret, seconds, time⟩ := prints
  -- the first field is required, the other two may be missing or null
  obtain ⟨first, named, isSeconds⟩ := nullable_of_gives (α := Int) nofun seconds
  obtain ⟨second, also, isTime⟩ := nullable_of_gives (α := String) nofun time
  have fields : (Json.object members).record? ["accessToken", "expires_on", "expiresOn"] =
      some [.given (.string output.secret), first, second] := by
    simp [Json.record?, Json.fields?, given_of_gives secret, named, also]
  have text : second.nullable Json.string? = some output.time := by
    rw [isTime]
    cases output.time <;> rfl
  rw [given, Option.bind_some, ofJson?, fields]
  simp only [Option.bind_eq_bind, Option.bind_some, Field.required, Json.string?, isSeconds, text]
  cases (output.seconds.elim (some none) fun seconds =>
    (Json.signed64? (.integer seconds)).map some) <;> rfl

/-- Whatever else the text holds, the token is made of what it gives. -/
theorem read_of_prints (prints : Prints text output)
    (word : ∀ seconds ∈ output.seconds, IsWord seconds) : read text = output.token := by
  have seconds : (output.seconds.elim (some none) fun seconds =>
      (Json.signed64? (.integer seconds)).map some) = some output.seconds := by
    cases given : output.seconds with
    | none => rfl
    | some seconds =>
      have read : Json.signed64? (.integer seconds) = some seconds := if_pos (word seconds given)
      rw [Option.elim_some, read, Option.map_some]
  rw [read, output_of_prints prints, seconds, Option.map_some]

/-- Seconds of more than 63 bits make the text unreadable. -/
theorem read_of_beyond {seconds : Int} {time : Option String}
    (prints : Prints text ⟨secret, some seconds, time⟩) (beyond : ¬ IsWord seconds) :
    read text = .error (.unreadable (misfit text)) := by
  have unread : Json.signed64? (.integer seconds) = none := if_neg beyond
  rw [read, output_of_prints prints, Option.elim_some, unread, Option.map_none, Option.map_none]

/-! ## The expiry

Two ranges of seconds matter. Those that denote an instant lie well within those that can be read,
so there are three cases: the seconds count, the time counts, or the text cannot be read. -/

/-- Seconds that denote an instant have no more than 63 bits. -/
theorem isWord_of_isRepresentable {seconds : Int} (representable : isRepresentable seconds = true) :
    IsWord seconds := by
  simp only [isRepresentable, Bool.and_eq_true, decide_eq_true_eq] at representable
  obtain ⟨least, most⟩ := representable
  -- the first and the last second that denote an instant, in the reach of a date
  have low : Int64.minValue.toInt ≤ -8334601228800 := by decide
  have high : 8210266876799 ≤ Int64.maxValue.toInt := by decide
  exact ⟨Int.le_trans low least, Int.le_trans most high⟩

/-- The seconds of an instant in a year of four digits can be given a date. -/
theorem isRepresentable_of_isPlain {instant : Instant} (year : Date.IsPlain instant.date.year) :
    isRepresentable instant.seconds = true := by
  obtain ⟨first, last⟩ := year
  refine (isRepresentable_iff instant.seconds).mpr ?_
  have same : (Instant.date ⟨instant.seconds, 0⟩).year = instant.date.year := rfl
  simp only [isRepresentableYear, same, Bool.and_eq_true, decide_eq_true_eq]
  omega

/-- Seconds that denote an instant count, whatever the time says. -/
theorem read_of_representable {seconds : Int} {time : Option String}
    (prints : Prints text ⟨secret, some seconds, time⟩)
    (representable : isRepresentable seconds = true) :
    read text = .ok ⟨secret, seconds, 0⟩ := by
  have word := isWord_of_isRepresentable representable
  have counts : (some seconds).filter isRepresentable = some seconds :=
    Option.filter_some_pos representable
  rw [read_of_prints prints (by simpa using word), token, expiry?, counts]

/-- Without seconds that denote an instant, the time counts. -/
theorem read_of_time (prints : Prints text output)
    (word : ∀ seconds ∈ output.seconds, IsWord seconds)
    (useless : ∀ seconds ∈ output.seconds, isRepresentable seconds = false) :
    read text = ((output.time.bind readInstant).elim (.error .noExpiry) fun instant =>
      .ok ⟨output.secret, instant⟩) := by
  have skipped : output.seconds.filter isRepresentable = none :=
    Option.filter_eq_none_iff.mpr fun seconds given => by simp [useless seconds given]
  rw [read_of_prints prints word, token, expiry?, skipped]
  dsimp only
  cases output.time.bind readInstant <;> rfl

/-! ## The encodings

The two ways to write an instant come to one token. The statement has three parts: texts that say
one instant in one or both ways, texts whose two ways differ, and texts without an instant. -/

/-- **The encodings of an expiry agree.** A token whose expiry is an instant in a year of four
digits is read alike from its seconds, from its time with however many zeros, and from both. Where
both are given, seconds that denote an instant count. Behind seconds that denote none the time
counts, as long as they have 63 bits and a sign; with more the text is unreadable. Without an
instant there is no token. -/
theorem expiry_encodings_agree :
    (∀ (text secret : String) (instant : Instant) (zeros : Nat),
      instant.nanos = 0 → Date.IsPlain instant.date.year →
      (Prints text ⟨secret, some instant.seconds, none⟩ ∨
        Prints text ⟨secret, none, some (instant.wallClock zeros)⟩ ∨
        Prints text ⟨secret, some instant.seconds, some (instant.wallClock zeros)⟩) →
      read text = .ok ⟨secret, instant⟩) ∧
    (∀ (text secret : String) (seconds : Int) (time : String),
      Prints text ⟨secret, some seconds, some time⟩ →
      (isRepresentable seconds = true → read text = .ok ⟨secret, seconds, 0⟩) ∧
      (isRepresentable seconds = false → ∀ instant, readInstant time = some instant →
        read text =
          if IsWord seconds then .ok ⟨secret, instant⟩ else .error (.unreadable (misfit text)))) ∧
    ∀ (text : String) (output : CliOutput), Prints text output →
      (∀ seconds ∈ output.seconds, isRepresentable seconds = false) →
      (∀ time ∈ output.time, readInstant time = none) →
      ∃ failure, read text = .error failure := by
  refine ⟨fun text secret instant zeros whole year prints => ?_,
    fun text secret seconds time prints => ⟨read_of_representable prints, ?_⟩,
    fun text output prints useless unread => ?_⟩
  · have representable := isRepresentable_of_isPlain year
    have same : (⟨instant.seconds, 0⟩ : Instant) = instant := by rw [← whole]
    rcases prints with seconds | time | both
    · rw [read_of_representable seconds representable, same]
    · rw [read_of_time time nofun nofun, Option.bind_some, readInstant_wallClock whole year,
        Option.elim_some]
    · rw [read_of_representable both representable, same]
  · intro outside instant reads
    split
    · next word =>
      rw [read_of_time prints (by simpa using word) (by simpa using outside), Option.bind_some,
        reads, Option.elim_some]
    · next beyond => exact read_of_beyond prints beyond
  · -- without a token either way: for want of an instant, or because the text is unreadable
    by_cases word : ∀ seconds ∈ output.seconds, IsWord seconds
    · have nothing : output.time.bind readInstant = none := Option.bind_eq_none_iff.mpr unread
      rw [read_of_time prints word useless, nothing, Option.elim_none]
      exact ⟨_, rfl⟩
    · obtain ⟨secret, seconds, time⟩ := output
      cases seconds with
      | none => exact absurd nofun word
      | some seconds => exact ⟨_, read_of_beyond prints (by simpa using word)⟩

/-- The last second of a leap day, as a time with six zeros and behind seconds that are too many;
and a leap day in a year without one. -/
theorem expiry_encodings_agree_leap_day :
    read (toJson ⟨"token", none, some "2024-02-29 23:59:59.000000"⟩).render =
      .ok ⟨"token", 1709251199, 0⟩ ∧
    read (toJson ⟨"token", some 8210266876800, some "2024-02-29 23:59:59"⟩).render =
      .ok ⟨"token", 1709251199, 0⟩ ∧
    ∃ failure, read (toJson ⟨"token", some 8210266876800, some "2023-02-29 23:59:59"⟩).render =
      .error failure := by
  obtain ⟨encoded, both, neither⟩ := expiry_encodings_agree
  have time : Instant.wallClock ⟨1709251199, 0⟩ 6 = "2024-02-29 23:59:59.000000" := by
    decide +kernel
  have prints (time : String) : Prints (toJson ⟨"token", some 8210266876800, some time⟩).render
      ⟨"token", some 8210266876800, some time⟩ := prints_toJson (by simp [Json.Fits, Json.maxWord])
  refine ⟨?_, ?_, ?_⟩
  · have year : Date.IsPlain (Instant.date ⟨1709251199, 0⟩).year :=
      ⟨by decide +kernel, by decide +kernel⟩
    refine encoded _ _ ⟨1709251199, 0⟩ 6 rfl year (.inr (.inl ?_))
    rw [time]
    exact prints_toJson nofun
  · rw [(both _ _ _ _ (prints _)).2 (by decide) ⟨1709251199, 0⟩ (by decide +kernel)]
    exact if_pos (by decide)
  · exact neither _ _ (prints _) (by simp; decide) (by simp; decide +kernel)

/-- Seconds of 64 bits denote no instant, and the time behind them does not count either. -/
theorem time_lost_behind_beyond :
    ¬ ∀ (text secret : String) (seconds : Int) (time : String) (instant : Instant),
      Prints text ⟨secret, some seconds, some time⟩ → isRepresentable seconds = false →
        readInstant time = some instant → read text = .ok ⟨secret, instant⟩ := by
  intro counts
  have prints := @prints_toJson ⟨"eyJ0eXAi", some 9223372036854775808, some "2030-01-01 00:00:00"⟩
    (by simp [Json.Fits, Json.maxWord])
  have read := counts _ _ _ _ ⟨1893456000, 0⟩ prints (by decide) (by decide +kernel)
  rw [read_of_beyond prints (by decide)] at read
  cases read

end AzcRepair.Access.CliOutput
