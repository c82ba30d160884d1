import WitBridge.Package.Parser
import WitBridge.Proofs.Parser.Yields

/-!
# Reading versions

The numbers of a version are written without leading zeros, so a version without a pre-release
part and build metadata is read back from its text, and in a document from the three numbers
and the dots between them. No other version is ever read from a document.
-/
namespace WitBridge.Version

open Token (signs)

/-- The decimal digits of a number other than zero begin with another digit than zero. -/
theorem head_toDigits_ne_zero {n : Nat} (positive : n ≠ 0) :
    (Nat.toDigits 10 n).head? ≠ some '0' := by
  induction n using Nat.strongRecOn with
  | ind n ih =>
    rw [Nat.toDigits_eq_if (by decide)]
    split
    · simpa using positive
    · next large =>
      have quotient : n / 10 ≠ 0 := by omega
      have high := ih (n / 10) (by omega) quotient
      obtain ⟨c, tail, shape⟩ :=
        List.exists_cons_of_ne_nil (Nat.toDigits_ne_nil : Nat.toDigits 10 (n / 10) ≠ [])
      rw [shape] at high ⊢
      simpa using high

/-- The decimal digits of a number spell the number. -/
theorem decimal_toDigits (n : Nat) : Text.decimal (Nat.toDigits 10 n) = n := by
  have spelled := Nat.ofDigitChars_toDigits (b := 10) (n := n) (by decide) (by decide)
  rw [Nat.ofDigitChars_eq_foldl] at spelled
  simpa [Text.decimal, Nat.mul_comm] using spelled

/-- Whether a text spells a number of a version: digits, one at least, no zero in front of others,
and the number is one of 64 bits. -/
structure Numeral (text : List Char) (number : UInt64) : Prop where
  digits : ∀ c ∈ text, c.isDigit = true
  inhabited : text ≠ []
  plain : text.head? = some '0' → text = ['0']
  value : Text.decimal text = number.toNat

/-- The decimal digits of a number spell it. -/
theorem numeral_toDigits (n : UInt64) : Numeral (Nat.toDigits 10 n.toNat) n where
  digits c member := Nat.isDigit_of_mem_toDigits (by decide) (by decide) member
  inhabited := Nat.toDigits_ne_nil
  plain zero := by
    have same : n.toNat = 0 :=
      Decidable.byContradiction fun positive => head_toDigits_ne_zero positive zero
    rw [same, Nat.toDigits_zero]
  value := decimal_toDigits n.toNat

/-- A number is read from its text where no digit follows. -/
theorem Numeral.readNumber {text rest : List Char} {number : UInt64}
    (numeral : Numeral text number) (part : Part) (outside : ∀ c ∈ rest.head?, c.isDigit = false) :
    readNumber part (text ++ rest) = .ok (number, rest) := by
  obtain ⟨taken, dropped⟩ := Text.takeWhile_append_of_head numeral.digits outside
  unfold Version.readNumber
  rw [taken, dropped]
  split
  · exact absurd rfl numeral.inhabited
  · exact absurd rfl numeral.inhabited
  · next second more shape => exact absurd (numeral.plain rfl) (by simp)
  · have small : Text.decimal text < UInt64.size := by
      rw [numeral.value]
      exact number.toNat_lt
    rw [if_pos small, numeral.value, UInt64.ofNat_toNat]

/-- A number that is read from a segment is spelled by it, and what follows it is left. -/
theorem numeral_of_readNumber {part : Part} {run rest after : List Char} {n : UInt64}
    (segment : Token.IsSegment run) (outside : ∀ c ∈ rest.head?, c.isDigit = false)
    (read : readNumber part (run ++ rest) = .ok (n, after)) : Numeral run n ∧ after = rest := by
  rcases segment with digits | ⟨c, first, other⟩
  · obtain ⟨taken, dropped⟩ := Text.takeWhile_append_of_head digits outside
    unfold readNumber at read
    rw [taken, dropped] at read
    split at read
    · cases read
    · cases read
    · cases read
    · next zero empty following =>
      split at read
      · next small =>
        simp only [Except.ok.injEq, Prod.mk.injEq] at read
        obtain ⟨rfl, rfl⟩ := read
        have inhabited : run ≠ [] := by
          intro none
          cases rest with
          | nil => exact empty none rfl
          | cons c tail => exact following c tail none rfl
        refine ⟨⟨digits, inhabited, fun first => ?_, ?_⟩, rfl⟩
        · cases run with
          | nil => exact absurd rfl inhabited
          | cons c more =>
            obtain rfl : c = '0' := Option.some.inj first
            cases more with
            | nil => rfl
            | cons second more => exact (zero second more rfl).elim
        · exact (UInt64.toNat_ofNat_of_lt small).symm
      · contradiction
  · obtain ⟨tail, rfl⟩ : ∃ tail, run = c :: tail := by
      cases run with
      | nil => simp at first
      | cons d tail => exact ⟨tail, by simpa using first⟩
    simp [readNumber, other] at read

/-- No digit is at the front of a dot. -/
theorem isDigit_head_dot (tail : List Char) : ∀ c ∈ ('.' :: tail).head?, c.isDigit = false := by
  intro c member
  obtain rfl : '.' = c := by simpa using member
  decide

/-- Three numbers with dots between them spell the version of the numbers. -/
theorem ofText_of_numerals {major minor patch : List Char} {x y z : UInt64}
    (first : Numeral major x) (second : Numeral minor y) (third : Numeral patch z) :
    ofText (String.ofList (major ++ '.' :: (minor ++ '.' :: patch))) = .ok ⟨x, y, z, "", ""⟩ := by
  have inhabited : String.ofList (major ++ '.' :: (minor ++ '.' :: patch)) ≠ "" := by
    intro empty
    have := congrArg String.toList empty
    simp at this
  have outside : ∀ c ∈ ([] : List Char).head?, c.isDigit = false := nofun
  have last := third.readNumber .patch outside
  rw [List.append_nil] at last
  simp only [ofText, inhabited, ↓reduceIte, String.toList_ofList,
    first.readNumber .major (isDigit_head_dot _), second.readNumber .minor (isDigit_head_dot _),
    last, readDot, readOptional, bind, Except.bind, pure, Except.pure, Option.getD]

/-- A version that is read from three segments with dots between them is that of the numbers that
they spell. -/
theorem numerals_of_ofText {major minor patch : List Char} {version : Version}
    (first : Token.IsSegment major) (second : Token.IsSegment minor)
    (third : Token.IsSegment patch)
    (read : ofText (String.ofList (major ++ '.' :: (minor ++ '.' :: patch))) = .ok version) :
    ∃ x y z, Numeral major x ∧ Numeral minor y ∧ Numeral patch z ∧
      version = ⟨x, y, z, "", ""⟩ := by
  have step : ∀ {α β : Type} {x : Except Fault α} {f : α → Except Fault β} {found : β},
      x >>= f = .ok found → ∃ value, x = .ok value ∧ f value = .ok found := by
    intro α β x f found ran
    cases x with
    | error fault => contradiction
    | ok value => exact ⟨value, rfl, ran⟩
  unfold ofText at read
  rw [String.toList_ofList] at read
  split at read
  · contradiction
  · obtain ⟨⟨x, rest⟩, taken, read⟩ := step read
    obtain ⟨numeral, same⟩ := numeral_of_readNumber first (isDigit_head_dot _) taken
    cases same
    obtain ⟨rest, taken, read⟩ := step read
    cases taken
    obtain ⟨⟨y, rest⟩, taken, read⟩ := step read
    obtain ⟨numeral', same⟩ := numeral_of_readNumber second (isDigit_head_dot _) taken
    cases same
    obtain ⟨rest, taken, read⟩ := step read
    cases taken
    obtain ⟨⟨z, rest⟩, taken, read⟩ := step read
    rw [← List.append_nil patch] at taken
    obtain ⟨numeral'', same⟩ := numeral_of_readNumber third (by simp) taken
    cases same
    cases read
    exact ⟨x, y, z, numeral, numeral', numeral'', rfl⟩

/-- Whether a version has neither a pre-release part nor build metadata. -/
def Plain (version : Version) : Prop :=
  version.pre = "" ∧ version.build = ""

/-- A plain version is written as its three numbers. -/
theorem toList_display {version : Version} (plain : version.Plain) :
    version.display.toList = Nat.toDigits 10 version.major.toNat ++
      '.' :: (Nat.toDigits 10 version.minor.toNat ++
        '.' :: Nat.toDigits 10 version.patch.toNat) := by
  simp [display, plain.1, plain.2, suffix, toString]

/-- A plain version is read back from its text. -/
theorem ofText_display {version : Version} (plain : version.Plain) :
    ofText version.display = .ok version := by
  rw [← String.ofList_toList (s := version.display), toList_display plain,
    ofText_of_numerals (numeral_toDigits _) (numeral_toDigits _) (numeral_toDigits _)]
  obtain ⟨major, minor, patch, pre, build⟩ := version
  obtain ⟨rfl, rfl⟩ : pre = "" ∧ build = "" := plain
  rfl

/-- Three numbers with dots between them are the segments of a plain version. -/
theorem ofSegments_toDigits {version : Version} (plain : version.Plain) :
    ofSegments [String.ofList (Nat.toDigits 10 version.major.toNat),
      String.ofList (Nat.toDigits 10 version.minor.toNat),
      String.ofList (Nat.toDigits 10 version.patch.toNat)] = .ok version := by
  have joined : ".".intercalate [String.ofList (Nat.toDigits 10 version.major.toNat),
      String.ofList (Nat.toDigits 10 version.minor.toNat),
      String.ofList (Nat.toDigits 10 version.patch.toNat)] = version.display := by
    rw [← String.toList_inj, toList_display plain]
    simp
  simp [ofSegments, joined, ofText_display plain]

open WitBridge.Parser (Reads Takes reads_pure takes_advance reads_get)

variable {rest left : List Token.Sign} {values : List String}

/-- The last number of a version. -/
theorem takes_segments_last (value : String) (rest : List Token.Sign) :
    Takes (segments 1) (⟨.integer, value, []⟩ :: rest) [value] rest := by
  apply Parser.takes_current
  intro token same
  simp only [show token.kind = .integer from congrArg Token.Sign.kind same,
    show token.value = value from congrArg Token.Sign.value same, decide_true, Bool.true_or,
    ↓reduceIte]
  refine (takes_advance _ _).bind (reads_get (fun stream _ => ?_) (Nat.le_refl _))
  refine .bind (Parser.reads_check _ _) ?_
  simp only [ne_eq, not_true_eq_false, decide_false, Bool.false_and, Bool.false_eq_true,
    ↓reduceIte]
  exact reads_pure _ _

/-- A number of a version before a dot and more numbers. -/
theorem takes_segments_more {count : Nat} (value : String) (positive : count ≠ 0)
    (next : Token.front rest = .integer) (more : Takes (segments count) rest values left) :
    Takes (segments (count + 1))
      (⟨.integer, value, []⟩ :: ⟨.mark .dot, ".", []⟩ :: rest) (value :: values) left := by
  apply Parser.takes_current
  intro token same
  simp only [show token.kind = .integer from congrArg Token.Sign.kind same,
    show token.value = value from congrArg Token.Sign.value same, decide_true, Bool.true_or,
    ↓reduceIte]
  have length_le := Nat.le_succ_of_le more.reads.length_le
  refine (takes_advance _ _).bind (reads_get (fun stream shows => ?_) length_le)
  have ahead : stream.peek.kind = .integer := shows.kind_peek.trans next
  refine .bind (Parser.reads_check _ _) ?_
  simp only [positive, ahead, Token.front, ne_eq, not_false_eq_true, decide_true, Bool.true_and,
    Bool.true_or, ↓reduceIte]
  exact (takes_advance _ _).reads.bind (more.reads.bind (reads_pure _ _))

/-- A plain version is read from its text where no digit follows. -/
theorem takes_display {version : Version} (plain : version.Plain) {rest : List Char}
    (outside : ∀ c ∈ rest.head?, c.isDigit = false) :
    Takes Version.parser (signs [] (version.display.toList ++ rest)) version (signs [] rest) := by
  have digits : ∀ n : Nat, ∀ c ∈ Nat.toDigits 10 n, c.isDigit = true :=
    fun n c member => Nat.isDigit_of_mem_toDigits (by decide) (by decide) member
  have number : ∀ (n : Nat) {tail : List Char}, (∀ c ∈ tail.head?, c.isDigit = false) →
      signs [] (Nat.toDigits 10 n ++ tail) =
        ⟨.integer, String.ofList (Nat.toDigits 10 n), []⟩ :: signs [] tail :=
    fun n _ edge => Token.signs_integer [] Nat.toDigits_ne_nil (digits n) edge
  have dot : ∀ tail, signs [] ('.' :: tail) = ⟨.mark .dot, ".", []⟩ :: signs [] tail :=
    fun tail => Token.signs_lone [] tail rfl
  have edge : ∀ tail, ∀ c ∈ ('.' :: tail : List Char).head?, c.isDigit = false := by
    intro tail c member
    obtain rfl : '.' = c := by simpa using member
    decide
  have shape : version.display.toList ++ rest = Nat.toDigits 10 version.major.toNat ++
      '.' :: (Nat.toDigits 10 version.minor.toNat ++
        '.' :: (Nat.toDigits 10 version.patch.toNat ++ rest)) := by
    simp [toList_display plain]
  rw [shape, number _ (edge _), dot, number _ (edge _), dot, number _ outside]
  have last := takes_segments_last (String.ofList (Nat.toDigits 10 version.patch.toNat))
    (signs [] rest)
  have two := takes_segments_more (String.ofList (Nat.toDigits 10 version.minor.toNat))
    (by decide) rfl last
  have all := takes_segments_more (String.ofList (Nat.toDigits 10 version.major.toNat))
    (by decide) rfl two
  apply Parser.takes_current
  intro token _
  refine all.bind ?_
  rw [ofSegments_toDigits plain]
  exact reads_pure _ _

/-- The version of up to three numbers; missing ones count as zero. -/
def ofNumbers (numbers : List UInt64) : Version :=
  ⟨numbers.getD 0 0, numbers.getD 1 0, numbers.getD 2 0, "", ""⟩

/-- Three segments are joined by dots. -/
theorem intercalate_segments (a b c : String) : ".".intercalate [a, b, c] =
    String.ofList (a.toList ++ '.' :: (b.toList ++ '.' :: c.toList)) := by
  rw [← String.toList_inj]
  simp

/-- A missing segment is a zero. -/
theorem numeral_zero : Numeral "0".toList 0 := by
  have shape : Nat.toDigits 10 (0 : UInt64).toNat = "0".toList := rfl
  exact shape ▸ numeral_toDigits 0

/-- The segment that stands for a missing one spells zero alone. -/
theorem Numeral.eq_zero {number : UInt64} (numeral : Numeral "0".toList number) : number = 0 :=
  UInt64.toNat_inj.1 (numeral.value.symm.trans (by decide))

/-- Up to three segments and the zeros for those that are missing. -/
theorem ofSegments_padded {values : List String} {a b c : String}
    (padded : values ++ List.replicate (3 - values.length) "0" = [a, b, c]) :
    ofSegments values =
      ofText (String.ofList (a.toList ++ '.' :: (b.toList ++ '.' :: c.toList))) := by
  rw [ofSegments, padded, intercalate_segments]

/-- Up to three numbers spell their version. -/
theorem ofSegments_of_numerals {values : List String} {numbers : List UInt64}
    (numerals : List.Forall₂ (fun value number => Numeral value.toList number) values numbers)
    (few : values.length ≤ 3) : ofSegments values = .ok (ofNumbers numbers) := by
  match numerals with
  | .nil =>
    rw [ofSegments_padded rfl]
    exact ofText_of_numerals numeral_zero numeral_zero numeral_zero
  | .cons first .nil =>
    rw [ofSegments_padded rfl]
    exact ofText_of_numerals first numeral_zero numeral_zero
  | .cons first (.cons second .nil) =>
    rw [ofSegments_padded rfl]
    exact ofText_of_numerals first second numeral_zero
  | .cons first (.cons second (.cons third .nil)) =>
    rw [ofSegments_padded rfl]
    exact ofText_of_numerals first second third
  | .cons _ (.cons _ (.cons _ (.cons _ _))) =>
    simp only [List.length_cons] at few
    omega

/-- A version that up to three segments spell is that of the numbers that they spell. -/
theorem numerals_of_ofSegments {values : List String} {version : Version}
    (few : values.length ≤ 3) (segments : ∀ value ∈ values, Token.IsSegment value.toList)
    (read : ofSegments values = .ok version) :
    ∃ numbers, List.Forall₂ (fun value number => Numeral value.toList number) values numbers ∧
      version = ofNumbers numbers := by
  have zero : Token.IsSegment "0".toList := .inl numeral_zero.digits
  match values, few with
  | [], _ =>
    rw [ofSegments_padded rfl] at read
    obtain ⟨x, y, z, first, second, third, rfl⟩ := numerals_of_ofText zero zero zero read
    cases first.eq_zero
    cases second.eq_zero
    cases third.eq_zero
    exact ⟨[], .nil, rfl⟩
  | [a], _ =>
    rw [ofSegments_padded rfl] at read
    have shape := segments a List.mem_cons_self
    obtain ⟨x, y, z, first, second, third, rfl⟩ := numerals_of_ofText shape zero zero read
    cases second.eq_zero
    cases third.eq_zero
    exact ⟨[x], .cons first .nil, rfl⟩
  | [a, b], _ =>
    rw [ofSegments_padded rfl] at read
    have shape := segments a List.mem_cons_self
    have shape' := segments b (by simp)
    obtain ⟨x, y, z, first, second, third, rfl⟩ := numerals_of_ofText shape shape' zero read
    cases third.eq_zero
    exact ⟨[x, y], .cons first (.cons second .nil), rfl⟩
  | [a, b, c], _ =>
    rw [ofSegments_padded rfl] at read
    have shape := segments a List.mem_cons_self
    have shape' := segments b (by simp)
    have shape'' := segments c (by simp)
    obtain ⟨x, y, z, first, second, third, rfl⟩ := numerals_of_ofText shape shape' shape'' read
    exact ⟨[x, y, z], .cons first (.cons second (.cons third .nil)), rfl⟩

section Yields

open WitBridge.Parser (Yields yields_pure yields_refuse yields_unexpected yields_current yields_get
  yields_check yields_advance yields_accept)

/-- The numbers of a version that is read, at most as many as asked for. -/
theorem yields_segments (count : Nat) :
    Yields (segments count) fun values =>
      values.length ≤ count ∧ ∀ value ∈ values, Token.IsSegment value.toList := by
  induction count with
  | zero => exact yields_pure ⟨Nat.le_refl _, nofun⟩
  | succ count ih =>
    refine yields_current fun stream tidy => Yields.at ?_ tidy
    split
    · next numeric =>
      have segment : Token.IsSegment stream.current.value.toList :=
        tidy.current.segment (by simpa using numeric)
      apply yields_advance.discard.bind
      intro _ _
      apply yields_get
      intro ahead
      apply (yields_check _).bind
      intro dot _
      split
      · apply yields_advance.discard.bind
        intro _ _
        apply ih.bind
        intro more found
        apply yields_pure
        exact ⟨by simpa using found.1, List.forall_mem_cons.2 ⟨segment, found.2⟩⟩
      · exact yields_pure ⟨by simp, by simpa using segment⟩
    · exact yields_unexpected _

/-- Up to three segments spell plain versions only. -/
theorem plain_of_ofSegments {values : List String} {version : Version} (few : values.length ≤ 3)
    (segments : ∀ value ∈ values, Token.IsSegment value.toList)
    (read : ofSegments values = .ok version) : version.Plain := by
  obtain ⟨numbers, -, rfl⟩ := numerals_of_ofSegments few segments read
  exact ⟨rfl, rfl⟩

/-- A version that is read is plain. -/
theorem parser_yields : Yields parser Plain := by
  refine yields_current fun stream tidy => Yields.at ?_ tidy
  apply (yields_segments 3).bind
  intro values found
  split
  · next version read => exact yields_pure (plain_of_ofSegments found.1 found.2 read)
  · exact yields_refuse _ _

/-- A version that may be missing is plain. -/
theorem yields_optional : Yields optional fun version => ∀ found ∈ version, found.Plain := by
  apply (yields_accept _).bind
  intro present _
  split
  · exact parser_yields.bind fun version plain => yields_pure (by simpa using plain)
  · exact yields_pure nofun

end Yields

end WitBridge.Version
