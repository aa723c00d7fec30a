import EdgeStreams.Naming

/-!
# What may name things

The texts that may name things of each kind, described by their octets and characters alone, and
what may be wrong with a text. A check accepts exactly the texts described, and of the faults of a
text it reports the first.

## Main definitions

- `NameKind.AdmitsName`: a text may name something of the kind
- `NameKind.Faulty`: a text has a fault, whatever else is wrong with it
- `NameFault.rank`: the order in which faults are reported

## Main statements

- `NameKind.admits_iff_faultless`: the texts that may name something are those without a fault
- `NameKind.Faulty.unique`: of a text's faults no two have one rank
- `NameKind.checks_grammar`: a check accepts exactly the texts that may name something, and
  otherwise reports the first of the text's faults

## Design notes

The description scans nothing: characters are classed by their ranges, a character of a text is
found by splitting the text, and a prefix is one in the sense of lists. Which characters are barred
does not depend on where they stand. That a text must begin with a letter is a fault of its own,
which comes first.
-/

namespace EdgeStreams

/-! ### Classes of characters -/

/-- The letters of ASCII. -/
def IsAsciiLetter (c : Char) : Prop :=
  ('a' ≤ c ∧ c ≤ 'z') ∨ ('A' ≤ c ∧ c ≤ 'Z')

/-- The digits of ASCII. -/
def IsAsciiDigit (c : Char) : Prop :=
  '0' ≤ c ∧ c ≤ '9'

/-- The characters of Unicode's category of control characters. -/
def IsControlCharacter (c : Char) : Prop :=
  c ≤ '\x1F' ∨ ('\x7F' ≤ c ∧ c ≤ '\u009F')

theorem isAlpha_iff (c : Char) : c.isAlpha = true ↔ IsAsciiLetter c := by
  have hupper : c.isUpper = true ↔ 'A' ≤ c ∧ c ≤ 'Z' := decide_eq_true_iff
  have hlower : c.isLower = true ↔ 'a' ≤ c ∧ c ≤ 'z' := by
    show (decide ('a' ≤ c) && decide (c ≤ 'z')) = true ↔ _
    rw [Bool.and_eq_true, decide_eq_true_iff, decide_eq_true_iff]
  show (c.isUpper || c.isLower) = true ↔ IsAsciiLetter c
  rw [Bool.or_eq_true, hupper, hlower]
  exact or_comm

theorem isDigit_iff (c : Char) : c.isDigit = true ↔ IsAsciiDigit c := by
  simp only [Char.isDigit, Bool.and_eq_true, decide_eq_true_eq]
  rfl

namespace NameKind

theorem isIdentifierCharacter_iff (c : Char) :
    isIdentifierCharacter c = true ↔ IsAsciiLetter c ∨ IsAsciiDigit c ∨ c = '_' ∨ c = ' ' := by
  simp only [isIdentifierCharacter, Char.isAlphanum, Bool.or_eq_true, isAlpha_iff, isDigit_iff,
    beq_iff_eq, or_assoc]

theorem isControl_iff (c : Char) : isControl c = true ↔ IsControlCharacter c := by
  have below (bound : Char) : c ≤ bound ↔ c.toNat ≤ bound.toNat := by
    rw [Char.le_def, UInt32.le_iff_toNat_le]
    rfl
  have above : '\x7F' ≤ c ↔ 0x7F ≤ c.toNat := by
    rw [Char.le_def, UInt32.le_iff_toNat_le]
    rfl
  simp only [isControl, IsControlCharacter, below, above, Bool.or_eq_true, Bool.and_eq_true,
    decide_eq_true_eq]
  have first : '\x1F'.toNat = 0x1F := rfl
  have last : '\u009F'.toNat = 0x9F := rfl
  omega

/-- The characters that no name of a kind holds. -/
def BarsCharacter : NameKind → Char → Prop
  | .dictionaryName, c | .configStoreName, c =>
    ¬(IsAsciiLetter c ∨ IsAsciiDigit c ∨ c = '_' ∨ c = ' ')
  | .logEndpointName, c => IsControlCharacter c
  | .objectStoreKey, c => c ∈ ['\r', '\n', '#', ';', '?', '^', '|']
  | .dictionaryKey, _ | .configStoreKey, _ | .objectStoreName, _ => False

theorem isKeyDelimiter_iff (c : Char) : isKeyDelimiter c = true ↔
    objectStoreKey.BarsCharacter c := by
  simp [isKeyDelimiter, BarsCharacter, or_assoc]

/-! ### Texts that may name things, and their faults -/

/-- A text may name something of the kind. -/
def AdmitsName : NameKind → String → Prop
  | .dictionaryName, text | .configStoreName, text =>
    (1 ≤ text.utf8ByteSize ∧ text.utf8ByteSize ≤ 255) ∧
      ∃ first rest, text.toList = first :: rest ∧ IsAsciiLetter first ∧
        ∀ c ∈ rest, IsAsciiLetter c ∨ IsAsciiDigit c ∨ c = '_' ∨ c = ' '
  | .dictionaryKey, text | .configStoreKey, text | .objectStoreName, text =>
    1 ≤ text.utf8ByteSize ∧ text.utf8ByteSize ≤ 255
  | .logEndpointName, text =>
    (1 ≤ text.utf8ByteSize ∧ text.utf8ByteSize ≤ 255) ∧ ∀ c ∈ text.toList, ¬IsControlCharacter c
  | .objectStoreKey, text =>
    (1 ≤ text.utf8ByteSize ∧ text.utf8ByteSize ≤ 1024) ∧ text ≠ "." ∧ text ≠ ".." ∧
      ¬".well-known/acme-challenge/".toList <+: text.toList ∧
        ∀ c ∈ text.toList, c ∉ ['\r', '\n', '#', ';', '?', '^', '|']

/-- The kinds whose names are identifiers. -/
def IsIdentifier (kind : NameKind) : Prop :=
  kind = .dictionaryName ∨ kind = .configStoreName

/-- The texts that are kept from naming anything of a kind, and why. -/
def ReservesText : NameKind → String → ReservedKey → Prop
  | .objectStoreKey, text, .dots => text = "." ∨ text = ".."
  | .objectStoreKey, text, .acmeChallenge => ".well-known/acme-challenge/".toList <+: text.toList
  | _, _, _ => False

/-- As a name of the kind the text has this fault, whatever else is wrong with it. -/
inductive Faulty (kind : NameKind) (text : String) : NameFault → Prop where
  | empty : text = "" → Faulty kind text .empty
  | tooLong : kind.limit < text.utf8ByteSize →
      Faulty kind text (.tooLong kind.limit text.utf8ByteSize)
  | invalidStart {first : Char} {rest : List Char} : kind.IsIdentifier →
      text.toList = first :: rest → ¬IsAsciiLetter first → Faulty kind text .invalidStart
  | reserved {reason : ReservedKey} : kind.ReservesText text reason →
      Faulty kind text (.reserved reason)
  /-- The character is the first of the text that is barred. -/
  | invalidCharacter {before after : List Char} {c : Char} : text.toList = before ++ c :: after →
      (∀ earlier ∈ before, ¬kind.BarsCharacter earlier) → kind.BarsCharacter c →
      Faulty kind text (.invalidCharacter c)

end NameKind

/-- The order in which faults are reported. -/
def NameFault.rank : NameFault → Nat
  | .empty => 0
  | .tooLong _ _ => 1
  | .invalidStart => 2
  | .reserved _ => 2
  | .invalidCharacter _ => 3

namespace NameKind

variable {kind : NameKind} {text : String} {fault other : NameFault}

/-- A letter is nowhere barred from an identifier. -/
theorem IsIdentifier.not_barsCharacter_letter (identifier : kind.IsIdentifier) {c : Char}
    (letter : IsAsciiLetter c) : ¬kind.BarsCharacter c := by
  rcases identifier with rfl | rfl <;> exact fun barred => barred (.inl letter)

theorem not_reserves_of_isIdentifier (identifier : kind.IsIdentifier) (reason : ReservedKey) :
    ¬kind.ReservesText text reason := by
  rcases identifier with rfl | rfl <;> exact id

/-- A text is not reserved for two reasons. -/
theorem ReservesText.unique {reason reason' : ReservedKey}
    (reserved : kind.ReservesText text reason) (reserved' : kind.ReservesText text reason') :
    reason = reason' := by
  have short : ¬".well-known/acme-challenge/".toList <+: ".".toList := by decide
  have short' : ¬".well-known/acme-challenge/".toList <+: "..".toList := by decide
  have apart : objectStoreKey.ReservesText text .dots →
      ¬objectStoreKey.ReservesText text .acmeChallenge := by
    rintro (rfl | rfl)
    · exact short
    · exact short'
  cases kind <;> try exact reserved.elim
  cases reason <;> cases reason'
  · rfl
  · exact absurd reserved' (apart reserved)
  · exact absurd reserved (apart reserved')
  · rfl

/-- Where a text is split before its first barred character, it is split in one way. -/
theorem first_barred_unique {before before' after after' : List Char} {c c' : Char}
    (same : before ++ c :: after = before' ++ c' :: after')
    (clean : ∀ earlier ∈ before, ¬kind.BarsCharacter earlier)
    (clean' : ∀ earlier ∈ before', ¬kind.BarsCharacter earlier) (barred : kind.BarsCharacter c)
    (barred' : kind.BarsCharacter c') : c = c' := by
  induction before generalizing before' with
  | nil =>
    cases before' with
    | nil => exact (List.cons.inj same).1
    | cons first rest =>
      obtain rfl : c = first := (List.cons.inj same).1
      exact absurd barred (clean' _ List.mem_cons_self)
  | cons first rest ih =>
    cases before' with
    | nil =>
      obtain rfl : first = c' := (List.cons.inj same).1
      exact absurd barred' (clean _ List.mem_cons_self)
    | cons first' rest' =>
      exact ih (List.cons.inj same).2 (fun _ mem => clean _ (List.mem_cons_of_mem _ mem))
        fun _ mem => clean' _ (List.mem_cons_of_mem _ mem)

/-- Of a text's faults no two have one rank. -/
theorem Faulty.unique (faulty : kind.Faulty text fault) (faulty' : kind.Faulty text other)
    (same : fault.rank = other.rank) : fault = other := by
  cases faulty <;> cases faulty' <;> try (simp [NameFault.rank] at same; done)
  case empty.empty => rfl
  case tooLong.tooLong => rfl
  case invalidStart.invalidStart => rfl
  case invalidStart.reserved identifier _ _ _ reserved =>
    exact absurd reserved (not_reserves_of_isIdentifier identifier _)
  case reserved.invalidStart reserved _ _ identifier _ _ =>
    exact absurd reserved (not_reserves_of_isIdentifier identifier _)
  case reserved.reserved reserved _ reserved' => rw [reserved.unique reserved']
  case invalidCharacter.invalidCharacter spelled clean barred _ _ _ spelled' clean' barred' =>
    rw [first_barred_unique (spelled.symm.trans spelled') clean clean' barred barred']

/-- A text may name something exactly if its length is right, an identifier begins with a letter,
the text is not reserved, and none of its characters is barred. -/
theorem admits_iff : kind.AdmitsName text ↔
    (1 ≤ text.utf8ByteSize ∧ text.utf8ByteSize ≤ kind.limit) ∧
      (kind.IsIdentifier → ∃ first rest, text.toList = first :: rest ∧ IsAsciiLetter first) ∧
      (∀ reason, ¬kind.ReservesText text reason) ∧ ∀ c ∈ text.toList, ¬kind.BarsCharacter c := by
  have spelled : (∃ first rest, text.toList = first :: rest ∧ IsAsciiLetter first ∧
      ∀ c ∈ rest, IsAsciiLetter c ∨ IsAsciiDigit c ∨ c = '_' ∨ c = ' ') ↔
      (∃ first rest, text.toList = first :: rest ∧ IsAsciiLetter first) ∧
        ∀ c ∈ text.toList, ¬¬(IsAsciiLetter c ∨ IsAsciiDigit c ∨ c = '_' ∨ c = ' ') := by
    constructor
    · rintro ⟨first, rest, eq, letter, clean⟩
      refine ⟨⟨first, rest, eq, letter⟩, fun c mem => not_not_intro ?_⟩
      rw [eq] at mem
      rcases List.mem_cons.1 mem with rfl | mem
      · exact .inl letter
      · exact clean c mem
    · rintro ⟨⟨first, rest, eq, letter⟩, clean⟩
      refine ⟨first, rest, eq, letter, fun c mem => Classical.not_not.1 (clean c ?_)⟩
      rw [eq]
      exact List.mem_cons_of_mem _ mem
  have reserves : (∀ reason, ¬objectStoreKey.ReservesText text reason) ↔
      text ≠ "." ∧ text ≠ ".." ∧ ¬".well-known/acme-challenge/".toList <+: text.toList := by
    refine ⟨fun free => ⟨?_, ?_, free .acmeChallenge⟩, fun free reason => ?_⟩
    · exact fun eq => free .dots (.inl eq)
    · exact fun eq => free .dots (.inr eq)
    · cases reason with
      | dots => exact fun dots => dots.elim free.1 free.2.1
      | acmeChallenge => exact free.2.2
  cases kind <;> simp only [AdmitsName, limit, IsIdentifier, BarsCharacter, spelled, reserves,
    reduceCtorEq] <;>
    simp [ReservesText, and_assoc]

theorem AdmitsName.faultless (admits : kind.AdmitsName text) : ¬kind.Faulty text fault := by
  obtain ⟨⟨enough, short⟩, start, free, clean⟩ := admits_iff.1 admits
  rintro (empty | long | ⟨identifier, spelled, odd⟩ | reserved | ⟨spelled, -, barred⟩)
  · exact absurd (empty ▸ enough) (by decide)
  · exact absurd long (Nat.not_lt.2 short)
  · obtain ⟨first, rest, spelled', letter⟩ := start identifier
    obtain ⟨rfl, rfl⟩ := List.cons.inj (spelled.symm.trans spelled')
    exact odd letter
  · exact free _ reserved
  · exact clean _ (by simp [spelled]) barred

/-! ### What is reported -/

/-- Of the text's faults this one comes first. -/
structure Reported (kind : NameKind) (text : String) (fault : NameFault) : Prop where
  faulty : kind.Faulty text fault
  first : ∀ other, kind.Faulty text other → fault.rank ≤ other.rank

theorem Reported.unique (reported : kind.Reported text fault)
    (reported' : kind.Reported text other) : fault = other :=
  reported.faulty.unique reported'.faulty
    (Nat.le_antisymm (reported.first _ reported'.faulty) (reported'.first _ reported.faulty))

theorem lengthFault?_eq_none : kind.lengthFault? text = none ↔
    1 ≤ text.utf8ByteSize ∧ text.utf8ByteSize ≤ kind.limit := by
  have empty : text = "" ↔ text.utf8ByteSize = 0 := String.utf8ByteSize_eq_zero_iff.symm
  simp only [lengthFault?, String.isEmpty_iff, empty]
  split
  · simp; omega
  · split <;> simp <;> omega

theorem reported_of_lengthFault? (found : kind.lengthFault? text = some fault) :
    kind.Reported text fault := by
  simp only [lengthFault?, String.isEmpty_iff] at found
  split at found
  case isTrue empty =>
    obtain rfl := Option.some.inj found
    exact ⟨.empty empty, fun _ _ => Nat.zero_le _⟩
  case isFalse full =>
    split at found
    case isFalse => cases found
    case isTrue long =>
      obtain rfl := Option.some.inj found
      refine ⟨.tooLong long, fun other faulty => ?_⟩
      cases faulty with
      | empty empty => exact absurd empty full
      | _ => simp [NameFault.rank]

/-- A text of allowed length has no fault that comes before those of its form. -/
theorem Faulty.two_le_rank (fits : kind.lengthFault? text = none)
    (faulty : kind.Faulty text fault) :
    2 ≤ fault.rank := by
  obtain ⟨enough, short⟩ := lengthFault?_eq_none.1 fits
  cases faulty with
  | empty empty => exact absurd (empty ▸ enough) (by decide)
  | tooLong long => exact absurd long (Nat.not_lt.2 short)
  | _ => simp [NameFault.rank]

/-- A scan from left to right stops at the first barred character. -/
theorem faulty_of_find? {p : Char → Bool} (classes : ∀ c, p c = true ↔ kind.BarsCharacter c)
    {c : Char} (found : text.toList.find? p = some c) : kind.Faulty text (.invalidCharacter c) := by
  obtain ⟨barred, before, after, spelled, clean⟩ := List.find?_eq_some_iff_append.1 found
  refine .invalidCharacter spelled (fun earlier mem barsCharacter => ?_) ((classes c).1 barred)
  simpa [(classes earlier).2 barsCharacter] using clean earlier mem

theorem not_barsCharacter_of_find? {p : Char → Bool}
    (classes : ∀ c, p c = true ↔ kind.BarsCharacter c) (found : text.toList.find? p = none) :
    ∀ c ∈ text.toList, ¬kind.BarsCharacter c :=
  fun c mem barsCharacter => List.find?_eq_none.1 found c mem ((classes c).2 barsCharacter)

/-- A barred character is reported if nothing else is wrong. -/
theorem reported_invalidCharacter {c : Char} (fits : kind.lengthFault? text = none)
    (start : kind.IsIdentifier → ∃ first rest, text.toList = first :: rest ∧ IsAsciiLetter first)
    (free : ∀ reason, ¬kind.ReservesText text reason)
    (faulty : kind.Faulty text (.invalidCharacter c)) :
    kind.Reported text (.invalidCharacter c) := by
  refine ⟨faulty, fun other faulty' => ?_⟩
  have late := faulty'.two_le_rank fits
  cases faulty' with
  | invalidStart identifier spelled odd =>
    obtain ⟨first, rest, spelled', letter⟩ := start identifier
    obtain ⟨rfl, rfl⟩ := List.cons.inj (spelled.symm.trans spelled')
    exact absurd letter odd
  | reserved reserved => exact absurd reserved (free _)
  | invalidCharacter => exact Nat.le_refl _
  | _ => exact absurd late (by simp [NameFault.rank])

theorem form_of_identifier (identifier : kind.IsIdentifier) (fits : kind.lengthFault? text = none) :
    (identifierFault? text.toList = none → kind.AdmitsName text) ∧
      (identifierFault? text.toList = some fault → kind.Reported text fault) := by
  have free : ∀ reason, ¬kind.ReservesText text reason := not_reserves_of_isIdentifier identifier
  have classes : ∀ c, (!isIdentifierCharacter c) = true ↔ kind.BarsCharacter c := by
    intro c
    rcases identifier with rfl | rfl <;>
      simp only [BarsCharacter, ← isIdentifierCharacter_iff, Bool.not_eq_true', Bool.not_eq_true]
  cases spelled : text.toList with
  | nil =>
    have empty : text = "" := String.toList_inj.1 (spelled.trans (by rfl))
    exact absurd (lengthFault?_eq_none.1 fits).1 (by simp [empty])
  | cons first rest =>
    simp only [identifierFault?]
    split
    case isFalse odd =>
      rw [isAlpha_iff] at odd
      refine ⟨nofun, fun found => ?_⟩
      obtain rfl := Option.some.inj found
      exact ⟨.invalidStart identifier spelled odd, fun _ faulty => faulty.two_le_rank fits⟩
    case isTrue letter =>
      rw [isAlpha_iff] at letter
      have start : kind.IsIdentifier →
          ∃ first rest, text.toList = first :: rest ∧ IsAsciiLetter first :=
        fun _ => ⟨first, rest, spelled, letter⟩
      -- The scan may as well begin at the first character, which is not barred.
      have whole : rest.find? (fun c => !isIdentifierCharacter c) =
          text.toList.find? fun c => !isIdentifierCharacter c := by
        rw [spelled, List.find?_cons_of_neg]
        exact fun barsCharacter => identifier.not_barsCharacter_letter letter
          ((classes first).1 barsCharacter)
      rw [whole]
      refine ⟨fun found => ?_, fun found => ?_⟩
      · exact admits_iff.2 ⟨lengthFault?_eq_none.1 fits, start, free,
          not_barsCharacter_of_find? classes (Option.map_eq_none_iff.1 found)⟩
      · obtain ⟨c, barred, rfl⟩ := Option.map_eq_some_iff.1 found
        exact reported_invalidCharacter fits start free (faulty_of_find? classes barred)

theorem form_of_scan {p : Char → Bool} (classes : ∀ c, p c = true ↔ kind.BarsCharacter c)
    (other : ¬kind.IsIdentifier) (free : ∀ reason, ¬kind.ReservesText text reason)
    (fits : kind.lengthFault? text = none) :
    ((text.toList.find? p).map NameFault.invalidCharacter = none → kind.AdmitsName text) ∧
      ((text.toList.find? p).map NameFault.invalidCharacter = some fault →
        kind.Reported text fault) := by
  refine ⟨fun found => ?_, fun found => ?_⟩
  · exact admits_iff.2 ⟨lengthFault?_eq_none.1 fits, fun identifier =>
      absurd identifier other, free, not_barsCharacter_of_find? classes
        (Option.map_eq_none_iff.1 found)⟩
  · obtain ⟨c, barred, rfl⟩ := Option.map_eq_some_iff.1 found
    exact reported_invalidCharacter fits (fun identifier => absurd identifier other) free
      (faulty_of_find? classes barred)

/-- What the form of a text of allowed length tells. -/
theorem form_spec (fits : kind.lengthFault? text = none) :
    (kind.formFault? text = none → kind.AdmitsName text) ∧
      (kind.formFault? text = some fault → kind.Reported text fault) := by
  cases kind with
  | dictionaryName => exact form_of_identifier (.inl rfl) fits
  | configStoreName => exact form_of_identifier (.inr rfl) fits
  | logEndpointName =>
    exact form_of_scan isControl_iff (by simp [IsIdentifier]) (fun _ => id) fits
  | dictionaryKey | configStoreKey | objectStoreName =>
    exact ⟨fun _ => lengthFault?_eq_none.1 fits, nofun⟩
  | objectStoreKey =>
    simp only [formFault?]
    split
    case isTrue dots =>
      refine ⟨nofun, fun found => ?_⟩
      obtain rfl := Option.some.inj found
      exact ⟨.reserved dots, fun _ faulty => faulty.two_le_rank fits⟩
    case isFalse noDots =>
      split
      case isTrue path =>
        refine ⟨nofun, fun found => ?_⟩
        obtain rfl := Option.some.inj found
        exact ⟨.reserved (List.isPrefixOf_iff_prefix.1 path), fun _ faulty =>
          faulty.two_le_rank fits⟩
      case isFalse noPath =>
        refine form_of_scan isKeyDelimiter_iff (by simp [IsIdentifier]) (fun reason => ?_) fits
        cases reason with
        | dots => exact noDots
        | acmeChallenge => exact fun path => noPath (List.isPrefixOf_iff_prefix.2 path)

theorem admits_of_fault? (found : kind.fault? text = none) : kind.AdmitsName text := by
  obtain ⟨fits, formed⟩ := Option.or_eq_none_iff.1 found
  have hform : (kind.formFault? text = none → kind.AdmitsName text) ∧
      (kind.formFault? text = some .empty → kind.Reported text .empty) := form_spec fits
  exact hform.1 formed

theorem reported_of_fault? (found : kind.fault? text = some fault) : kind.Reported text fault := by
  rcases Option.or_eq_some_iff.1 found with long | ⟨fits, formed⟩
  · exact reported_of_lengthFault? long
  · exact (form_spec fits).2 formed

theorem check_eq_ok_iff : kind.check text = .ok () ↔ kind.fault? text = none := by
  cases found : kind.fault? text <;> simp [check, found]

theorem check_eq_error_iff {error : NameError} :
    kind.check text = .error error ↔ error.kind = kind ∧ kind.fault? text = some error.fault := by
  obtain ⟨kind', fault⟩ := error
  cases found : kind.fault? text <;> simp [check, found, eq_comm]

/-- The texts that may name something are those without a fault. -/
theorem admits_iff_faultless : kind.AdmitsName text ↔ ∀ fault, ¬kind.Faulty text fault := by
  refine ⟨fun admits _ => admits.faultless, fun faultless => ?_⟩
  cases found : kind.fault? text with
  | none => exact admits_of_fault? found
  | some fault => exact absurd (reported_of_fault? found).faulty (faultless fault)

/-- A check accepts exactly the texts that may name something of the kind. Otherwise it reports the
first of the text's faults, which says what was to be named. -/
theorem checks_grammar (kind : NameKind) (text : String) :
    (kind.check text = .ok () ↔ kind.AdmitsName text) ∧
      ∀ error, kind.check text = .error error ↔
        error.kind = kind ∧ kind.Reported text error.fault := by
  have admitted : kind.fault? text = none ↔ kind.AdmitsName text := by
    refine ⟨admits_of_fault?, fun admits =>
      Option.eq_none_iff_forall_ne_some.2 fun fault found => ?_⟩
    exact admits.faultless (reported_of_fault? found).faulty
  refine ⟨check_eq_ok_iff.trans admitted, fun error => check_eq_error_iff.trans ?_⟩
  refine and_congr_right fun _ => ⟨reported_of_fault?, fun reported => ?_⟩
  cases found : kind.fault? text with
  | none => exact absurd reported.faulty (admits_of_fault? found).faultless
  | some fault => rw [(reported_of_fault? found).unique reported]

end NameKind

end EdgeStreams
