import GaloisCounter.Config.Decode

/-!
Settings one by one.

A configuration makes a choice for every setting, and a draft for some of them. For each setting it
is said here which values stand for a choice, and what is wrong with every other value. Reading a
value comes to the choice or to the fault.
-/

namespace GaloisCounter

/-! ## Names -/

namespace Text

/-- Every choice is found by its own name. -/
class LawfulNamed (Choice : Type) [Named Choice] : Prop where
  ofName?_name : ∀ choice : Choice, Named.ofName? (Named.name choice) = some choice

section

variable {Choice : Type} [Named Choice] [LawfulNamed Choice] {text : String}

theorem Named.ofName?_eq_some_iff {choice : Choice} :
    ofName? text = some choice ↔ text = name choice := by
  constructor
  · intro found
    have same := List.find?_some (p := fun choice : Choice => name choice == text) found
    exact (beq_iff_eq.mp same).symm
  · rintro rfl
    exact LawfulNamed.ofName?_name choice

theorem Named.name_injective : Function.Injective (name : Choice → String) := by
  intro choice other same
  rw [← ofName?_eq_some_iff, LawfulNamed.ofName?_name] at same
  exact Option.some.inj same

theorem Named.ofName?_eq_none_iff :
    (ofName? text : Option Choice) = none ↔ ∀ choice : Choice, text ≠ name choice := by
  rw [Option.eq_none_iff_forall_ne_some]
  exact forall_congr' fun choice => not_congr ofName?_eq_some_iff

end

instance : LawfulNamed LengthLimit := ⟨fun choice => by cases choice <;> decide⟩

instance : LawfulNamed AadPolicy := ⟨fun choice => by cases choice <;> decide⟩

instance : LawfulNamed IvPolicy := ⟨fun choice => by cases choice <;> decide⟩

instance : LawfulNamed Backend := ⟨fun choice => by cases choice <;> decide⟩

instance : LawfulNamed Config.Setting := ⟨fun choice => by cases choice <;> decide⟩

end Text

namespace Config

open GaloisCounter.Json (Content Value Numeral)
open GaloisCounter.Text (Named LawfulNamed)

/-! ## Choices by setting -/

abbrev Setting.Choice : Setting → Type
  | .tagLength => TagLength
  | .lengthLimit => LengthLimit
  | .aadPolicy => AadPolicy
  | .ivPolicy => IvPolicy
  | .backend => Backend

def get (config : Config) : (setting : Setting) → setting.Choice
  | .tagLength => config.tagLength
  | .lengthLimit => config.lengthLimit
  | .aadPolicy => config.aadPolicy
  | .ivPolicy => config.ivPolicy
  | .backend => config.backend

theorem eq_of_get {config other : Config}
    (same : ∀ setting, config.get setting = other.get setting) : config = other := by
  cases config
  cases other
  congr
  · exact same .tagLength
  · exact same .lengthLimit
  · exact same .aadPolicy
  · exact same .ivPolicy
  · exact same .backend

namespace Draft

def get (settings : Draft) : (setting : Setting) → Option setting.Choice
  | .tagLength => settings.tagLength
  | .lengthLimit => settings.lengthLimit
  | .aadPolicy => settings.aadPolicy
  | .ivPolicy => settings.ivPolicy
  | .backend => settings.backend

def set (settings : Draft) : (setting : Setting) → setting.Choice → Draft
  | .tagLength, length => { settings with tagLength := some length }
  | .lengthLimit, limit => { settings with lengthLimit := some limit }
  | .aadPolicy, policy => { settings with aadPolicy := some policy }
  | .ivPolicy, policy => { settings with ivPolicy := some policy }
  | .backend, backend => { settings with backend := some backend }

@[simp] theorem get_empty (setting : Setting) : ({} : Draft).get setting = none := by
  cases setting <;> rfl

@[simp] theorem get_set_self (settings : Draft) (setting : Setting) (choice : setting.Choice) :
    (settings.set setting choice).get setting = some choice := by
  cases setting <;> rfl

theorem get_set_of_ne (settings : Draft) {setting other : Setting} (different : other ≠ setting)
    (choice : setting.Choice) : (settings.set setting choice).get other = settings.get other := by
  cases setting <;> cases other <;> first | rfl | exact absurd rfl different

theorem has_eq (settings : Draft) (setting : Setting) :
    settings.has setting = (settings.get setting).isSome := by
  cases setting <;> rfl

@[simp] theorem has_empty (setting : Setting) : ({} : Draft).has setting = false := by
  cases setting <;> rfl

@[simp] theorem has_set_self (settings : Draft) (setting : Setting) (choice : setting.Choice) :
    (settings.set setting choice).has setting = true := by
  rw [has_eq, get_set_self, Option.isSome_some]

theorem has_set_of_ne (settings : Draft) {setting other : Setting} (different : other ≠ setting)
    (choice : setting.Choice) : (settings.set setting choice).has other = settings.has other := by
  rw [has_eq, get_set_of_ne settings different, ← has_eq]

theorem get_complete (settings : Draft) (setting : Setting) :
    settings.complete.get setting = (settings.get setting).getD (({} : Config).get setting) := by
  cases setting <;> rfl

end Draft

/-! ## Values of settings -/

namespace Setting

def decode : (setting : Setting) → Value → Decoded setting.Choice
  | .tagLength, value => decodeTagLength value
  | .lengthLimit, value => Decoded.quietly (decodeChoice value)
  | .aadPolicy, value => Decoded.quietly (decodeChoice value)
  | .ivPolicy, value => Decoded.quietly (decodeChoice value)
  | .backend, value => Decoded.quietly (decodeChoice value)

/-- A number of bytes is written in digits alone. -/
inductive SpellsLength : Value → TagLength → Prop
  | digits {digits : List Nat} {length : TagLength}
      (number : Numeral.ofDigits digits = length.bytes) :
      SpellsLength (.numeral ⟨false, digits, none, none⟩) length

/-- A choice is written by its name, alone or as the only key of an object with null. -/
inductive SpellsChoice {Choice : Type} [Named Choice] : Value → Choice → Prop
  | name (choice : Choice) : SpellsChoice (.string (some (Named.name choice))) choice
  | object (choice : Choice) :
      SpellsChoice (.object [(some (Named.name choice), .null)] true) choice

def Spells : (setting : Setting) → Value → setting.Choice → Prop
  | .tagLength => SpellsLength
  | .lengthLimit => SpellsChoice
  | .aadPolicy => SpellsChoice
  | .ivPolicy => SpellsChoice
  | .backend => SpellsChoice

inductive RefusesLength : Value → DecodeError → Prop
  | outOfRange {digits : List Nat} (fits : Numeral.ofDigits digits < 1 <<< 64)
      (outside : ¬(8 ≤ Numeral.ofDigits digits ∧ Numeral.ofDigits digits ≤ 16)) :
      RefusesLength (.numeral ⟨false, digits, none, none⟩)
        (.rejected (.tagLengthOutOfRange (Numeral.ofDigits digits)))
  | negative {value : Value} {number : Int}
      (found : Found.ofValue? value = some (.quantity (.negative number))) :
      RefusesLength value (.invalidValue (.quantity (.negative number)) "usize")
  | otherKind {value : Value} {found : Found} (kind : Found.ofValue? value = some found)
      (notNatural : ∀ number, found ≠ .quantity (.natural number))
      (notNegative : ∀ number, found ≠ .quantity (.negative number)) :
      RefusesLength value (.invalidType found "usize")
  | malformed {value : Value} (broken : Found.ofValue? value = none) :
      RefusesLength value .malformed

/-- The name that a value gives before anything else. -/
inductive Names : Value → String → Prop
  | string (name : String) : Names (.string (some name)) name
  | object (name : String) (content : Value) (rest : List (Content × Value)) (closed : Bool) :
      Names (.object ((some name, content) :: rest) closed) name

inductive RefusesChoice (Choice : Type) [Named Choice] : Value → DecodeError → Prop
  | unknown {value : Value} {name : String} (names : Names value name)
      (unknown : ∀ choice : Choice, name ≠ Named.name choice) :
      RefusesChoice Choice value (.unknownVariant name (Named.names Choice))
  | notNull (choice : Choice) {content : Value} (notNull : content ≠ .null)
      (rest : List (Content × Value)) (closed : Bool) :
      RefusesChoice Choice (.object ((some (Named.name choice), content) :: rest) closed)
        (.unexpected content "unit")
  | notAlone (choice : Choice) {rest : List (Content × Value)} {closed : Bool}
      (more : ¬(rest = [] ∧ closed = true)) :
      RefusesChoice Choice (.object ((some (Named.name choice), .null) :: rest) closed) .malformed
  | nameless {value : Value} (nameless : ∀ name, ¬Names value name) :
      RefusesChoice Choice value .malformed

def Refuses : Setting → Value → DecodeError → Prop
  | .tagLength => RefusesLength
  | .lengthLimit => RefusesChoice LengthLimit
  | .aadPolicy => RefusesChoice AadPolicy
  | .ivPolicy => RefusesChoice IvPolicy
  | .backend => RefusesChoice Backend

def warnings : (setting : Setting) → setting.Choice → List Event
  | .tagLength, length => (TagLength.ofBytes length.bytes).events
  | .lengthLimit, _ => []
  | .aadPolicy, _ => []
  | .ivPolicy, _ => []
  | .backend, _ => []

end Setting

/-! ## Reading lengths -/

theorem quantity?_digits {digits : List Nat} (fits : Numeral.ofDigits digits < 1 <<< 64) :
    Numeral.quantity? ⟨false, digits, none, none⟩ =
      some (.natural (Numeral.ofDigits digits)) :=
  if_pos ⟨rfl, rfl, fits⟩

theorem quantity?_eq_natural {numeral : Numeral} {number : Nat}
    (found : numeral.quantity? = some (.natural number)) :
    ∃ digits, numeral = ⟨false, digits, none, none⟩ ∧ Numeral.ofDigits digits = number ∧
      number < 1 <<< 64 := by
  by_cases natural : numeral.isInteger ∧ !numeral.negative ∧
      Numeral.ofDigits numeral.integer < 1 <<< 64
  · have same : numeral.quantity? = some (.natural (Numeral.ofDigits numeral.integer)) :=
      if_pos natural
    rw [same] at found
    cases found
    obtain ⟨negative, digits, fraction, exponent⟩ := numeral
    simp only [Numeral.isInteger, Bool.and_eq_true, Option.isNone_iff_eq_none,
      Bool.not_eq_true'] at natural
    obtain ⟨⟨rfl, rfl⟩, rfl, fits⟩ := natural
    exact ⟨digits, rfl, rfl, fits⟩
  · have other : numeral.quantity? = _ := if_neg natural
    rw [other] at found
    split at found
    · cases found
    · simp at found

theorem ofValue?_digits {digits : List Nat} (fits : Numeral.ofDigits digits < 1 <<< 64) :
    Found.ofValue? (.numeral ⟨false, digits, none, none⟩) =
      some (.quantity (.natural (Numeral.ofDigits digits))) :=
  congrArg (Option.map Found.quantity) (quantity?_digits fits)

theorem ofValue?_eq_natural {value : Value} {number : Nat}
    (found : Found.ofValue? value = some (.quantity (.natural number))) :
    ∃ digits, value = .numeral ⟨false, digits, none, none⟩ ∧ Numeral.ofDigits digits = number ∧
      number < 1 <<< 64 := by
  cases value with
  | numeral numeral =>
      simp only [Found.ofValue?, Option.map_eq_some_iff, Found.quantity.injEq] at found
      obtain ⟨_, quantity, rfl⟩ := found
      obtain ⟨digits, rfl, number, fits⟩ := quantity?_eq_natural quantity
      exact ⟨digits, rfl, number, fits⟩
  | _ => simp [Found.ofValue?] at found

/-- A natural number goes through the check of tag lengths, which alone says whether it is one. -/
theorem decodeTagLength_natural {value : Value} {number : Nat}
    (found : Found.ofValue? value = some (.quantity (.natural number))) :
    (decodeTagLength value).run =
      ⟨(TagLength.ofBytes number).value.mapError .rejected, [],
        (TagLength.ofBytes number).events⟩ := by
  simp only [decodeTagLength, found]
  unfold TagLength.ofBytes
  split
  · split <;> rfl
  · rfl

theorem decodeTagLength_of_spells {value : Value} {length : TagLength}
    (spells : Setting.SpellsLength value length) :
    (decodeTagLength value).run = ⟨.ok length, [], (TagLength.ofBytes length.bytes).events⟩ := by
  obtain @⟨digits, _, number⟩ := spells
  have fits : Numeral.ofDigits digits < 1 <<< 64 := by
    rw [number]
    exact Nat.lt_of_le_of_lt length.atMost (by decide)
  rw [decodeTagLength_natural (ofValue?_digits fits), number, TagLength.value_ofBytes,
    dif_pos ⟨length.atLeast, length.atMost⟩]
  rfl

theorem decodeTagLength_of_refuses {value : Value} {error : DecodeError}
    (refuses : Setting.RefusesLength value error) :
    (decodeTagLength value).run = ⟨.error error, [], []⟩ := by
  cases refuses with
  | @outOfRange digits fits outside =>
      rw [decodeTagLength_natural (ofValue?_digits fits), TagLength.ofBytes, dif_neg outside]
      rfl
  | negative found =>
      simp only [decodeTagLength, found]
      rfl
  | otherKind kind notNatural notNegative =>
      unfold decodeTagLength
      split
      · next natural =>
          cases kind.symm.trans natural
          exact absurd rfl (notNatural _)
      · next negative =>
          cases kind.symm.trans negative
          exact absurd rfl (notNegative _)
      · simp only [DecodeError.unexpected, kind]
        rfl
  | malformed broken =>
      simp only [decodeTagLength, DecodeError.unexpected, broken]
      rfl

theorem length_spelled_or_refused (value : Value) :
    (∃ length, Setting.SpellsLength value length) ∨
      ∃ error, Setting.RefusesLength value error := by
  match read : Found.ofValue? value with
  | none => exact .inr ⟨_, .malformed read⟩
  | some found =>
      by_cases natural : ∃ number, found = .quantity (.natural number)
      · obtain ⟨number, rfl⟩ := natural
        obtain ⟨digits, rfl, rfl, fits⟩ := ofValue?_eq_natural read
        by_cases bounds : 8 ≤ Numeral.ofDigits digits ∧ Numeral.ofDigits digits ≤ 16
        · exact .inl ⟨⟨_, bounds.1, bounds.2⟩, .digits rfl⟩
        · exact .inr ⟨_, .outOfRange fits bounds⟩
      · by_cases negative : ∃ number, found = .quantity (.negative number)
        · obtain ⟨number, rfl⟩ := negative
          exact .inr ⟨_, .negative read⟩
        · exact .inr ⟨_, .otherKind read (not_exists.mp natural) (not_exists.mp negative)⟩

/-! ## Reading choices -/

section

variable {Choice : Type} [Named Choice] [LawfulNamed Choice] {value : Value}

theorem chooseNamed_name (choice : Choice) :
    chooseNamed Choice (Named.name choice) = .ok choice := by
  rw [chooseNamed, LawfulNamed.ofName?_name]

theorem chooseNamed_unknown {name : String}
    (unknown : ∀ choice : Choice, name ≠ Named.name choice) :
    chooseNamed Choice name = .error (.unknownVariant name (Named.names Choice)) := by
  rw [chooseNamed, Named.ofName?_eq_none_iff.mpr unknown]

theorem decodeChoice_of_spells {choice : Choice} (spells : Setting.SpellsChoice value choice) :
    decodeChoice value = .ok choice := by
  cases spells with
  | name => exact chooseNamed_name choice
  | object => simp [decodeChoice, decodeMember, chooseNamed_name, bind, Except.bind]

theorem decodeChoice_of_refuses {error : DecodeError}
    (refuses : Setting.RefusesChoice Choice value error) :
    decodeChoice value = (.error error : Except DecodeError Choice) := by
  cases refuses with
  | unknown names unknown =>
      cases names with
      | string name => exact chooseNamed_unknown unknown
      | object => simp [decodeChoice, decodeMember, chooseNamed_unknown unknown, bind, Except.bind]
  | notNull choice notNull =>
      simp [decodeChoice, decodeMember, chooseNamed_name, bind, Except.bind]
  | @notAlone choice rest closed more =>
      have notAlone : (rest.isEmpty && closed) = false := by simpa using more
      simp [decodeChoice, decodeMember, chooseNamed_name, notAlone, bind, Except.bind]
  | nameless nameless =>
      match value with
      | .string (some name) => exact absurd (.string name) (nameless name)
      | .object ((some name, content) :: rest) closed =>
          exact absurd (.object name content rest closed) (nameless name)
      | .string none | .object [] _ | .object ((none, _) :: _) _ => rfl
      | .null | .boolean _ | .numeral _ | .array _ _ | .malformed => rfl

theorem choice_spelled_or_refused (value : Value) :
    (∃ choice : Choice, Setting.SpellsChoice value choice) ∨
      ∃ error, Setting.RefusesChoice Choice value error := by
  by_cases named : ∃ name, Setting.Names value name
  · obtain ⟨name, names⟩ := named
    match chosen : (Named.ofName? name : Option Choice) with
    | none => exact .inr ⟨_, .unknown names (Named.ofName?_eq_none_iff.mp chosen)⟩
    | some choice =>
        obtain rfl := Named.ofName?_eq_some_iff.mp chosen
        cases names with
        | string => exact .inl ⟨choice, .name choice⟩
        | object _ content rest closed =>
            by_cases null : content = .null
            · subst null
              by_cases alone : rest = [] ∧ closed = true
              · obtain ⟨rfl, rfl⟩ := alone
                exact .inl ⟨choice, .object choice⟩
              · exact .inr ⟨_, .notAlone choice alone⟩
            · exact .inr ⟨_, .notNull choice null rest closed⟩
  · exact .inr ⟨_, .nameless fun name names => named ⟨name, names⟩⟩

end

/-! ## Reading settings -/

namespace Setting

variable {setting : Setting} {value : Value}

theorem decode_of_spells {choice : setting.Choice} (spells : setting.Spells value choice) :
    (setting.decode value).run = ⟨.ok choice, [], setting.warnings choice⟩ := by
  cases setting with
  | tagLength => exact decodeTagLength_of_spells spells
  | _ => exact congrArg Traced.of (decodeChoice_of_spells spells)

theorem decode_of_refuses {error : DecodeError} (refuses : setting.Refuses value error) :
    (setting.decode value).run = ⟨.error error, [], []⟩ := by
  cases setting with
  | tagLength => exact decodeTagLength_of_refuses refuses
  | _ => exact congrArg Traced.of (decodeChoice_of_refuses refuses)

theorem spells_or_refuses (setting : Setting) (value : Value) :
    (∃ choice, setting.Spells value choice) ∨ ∃ error, setting.Refuses value error := by
  cases setting with
  | tagLength => exact length_spelled_or_refused value
  | _ => exact choice_spelled_or_refused value

theorem Spells.unique {choice other : setting.Choice} (spells : setting.Spells value choice)
    (spellsOther : setting.Spells value other) : choice = other := by
  have same := (decode_of_spells spells).symm.trans (decode_of_spells spellsOther)
  exact Except.ok.inj (congrArg Traced.value same)

theorem Spells.not_refuses {choice : setting.Choice} (spells : setting.Spells value choice)
    (error : DecodeError) : ¬setting.Refuses value error := by
  intro refuses
  have same := (decode_of_spells spells).symm.trans (decode_of_refuses refuses)
  exact nomatch congrArg Traced.value same

theorem Spells.wellFormed {choice : setting.Choice} (spells : setting.Spells value choice) :
    value.wellFormed = true := by
  cases setting <;> cases spells <;> rfl

end Setting

namespace Draft

theorem decode_eq (settings : Draft) (setting : Setting) (value : Value) :
    settings.decode setting value = (do
      let choice ← setting.decode value
      return settings.set setting choice) := by
  cases setting <;> rfl

end Draft

end Config

end GaloisCounter
