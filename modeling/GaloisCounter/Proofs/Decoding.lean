import GaloisCounter.Proofs.Settings

/-!
Objects of settings.

The members of an object are looked at in the order of the text. A member may be no setting at all,
or be the only member for its setting and stand for a choice. Any other member is at fault, and the
first that is ends the reading. What is accepted is said without an order: which settings are given,
each by one member, and what that member stands for.
-/

namespace GaloisCounter.Config

open GaloisCounter.Json (Content Value Numeral Document)
open GaloisCounter.Text (Named LawfulNamed)

abbrev Member := Content × Value

def Setting.ofKey? (key : Content) : Option Setting := key.bind Named.ofName?

def Unknown (name : String) : Prop := ∀ setting : Setting, name ≠ Named.name setting

def settingsOf (members : List Member) : List Setting :=
  members.filterMap fun member => Setting.ofKey? member.1

/-- The keys and values are those of a well-formed object. -/
def Readable (members : List Member) : Prop :=
  ∀ member ∈ members, member.1.isSome ∧ member.2.wellFormed

/-! ## Faults -/

/-- What is wrong with a member after members for the settings in `given`. -/
inductive Offends (given : List Setting) : Member → DecodeError → Prop
  | key (value : Value) : Offends given (none, value) .malformed
  | ignored {name : String} {value : Value} (unknown : Unknown name)
      (broken : value.wellFormed = false) : Offends given (some name, value) .malformed
  | again {setting : Setting} (again : setting ∈ given) (value : Value) :
      Offends given (some (Named.name setting), value) (.duplicateSetting setting)
  | refused {setting : Setting} {value : Value} {error : DecodeError} (first : setting ∉ given)
      (refuses : setting.Refuses value error) :
      Offends given (some (Named.name setting), value) error

/-- What is wrong with the first member that is at fault. -/
inductive FirstOffence : (given : List Setting) → List Member → DecodeError → Prop
  | here {given : List Setting} {member : Member} {error : DecodeError}
      (offends : Offends given member error) (rest : List Member) :
      FirstOffence given (member :: rest) error
  | later {given : List Setting} {member : Member} {rest : List Member} {error : DecodeError}
      (clear : ∀ fault, ¬Offends given member fault)
      (offence : FirstOffence (given ++ settingsOf [member]) rest error) :
      FirstOffence given (member :: rest) error

/-- What members stand for. Settings that are not given have their defaults. -/
structure Denotes (members : List Member) (config : Config) : Prop where
  readable : Readable members
  once : (settingsOf members).Nodup
  given : ∀ (setting : Setting) (value : Value), (some (Named.name setting), value) ∈ members →
    setting.Spells value (config.get setting)
  absent : ∀ setting, setting ∉ settingsOf members →
    config.get setting = ({} : Config).get setting

/-! ## Results -/

namespace Decoded

variable {First Second : Type} {first : Decoded First} {events : List Event}

theorem run_bind_ok {result : First} (done : first.run = ⟨.ok result, [], events⟩)
    (next : First → Decoded Second) :
    (first >>= next).run =
      ⟨(next result).run.value, (next result).run.calls, events ++ (next result).run.events⟩ := by
  change (first.run >>= ExceptT.bindCont next) = _
  rw [done]
  rfl

theorem run_bind_error {error : DecodeError} (failed : first.run = ⟨.error error, [], events⟩)
    (next : First → Decoded Second) : (first >>= next).run = ⟨.error error, [], events⟩ := by
  change (first.run >>= ExceptT.bindCont next) = _
  rw [failed]
  exact Traced.ext rfl rfl (List.append_nil events)

theorem of_value_bind_ok {next : First → Decoded Second} {result : Second}
    (done : (first >>= next).run.value = .ok result) :
    ∃ middle, first.run.value = .ok middle ∧ (next middle).run.value = .ok result := by
  change (ExceptT.bindCont next first.run.value).value = .ok result at done
  match read : first.run.value with
  | .ok middle =>
      rw [read] at done
      exact ⟨middle, rfl, done⟩
  | .error error =>
      rw [read] at done
      cases done

end Decoded

/-! ## Single members -/

section

variable {name : String} {value : Value}

@[simp] theorem settingsOf_nil : settingsOf [] = [] := rfl

@[simp] theorem settingsOf_append (before after : List Member) :
    settingsOf (before ++ after) = settingsOf before ++ settingsOf after :=
  List.filterMap_append

theorem settingsOf_perm {members reordered : List Member} (order : members.Perm reordered) :
    (settingsOf members).Perm (settingsOf reordered) :=
  order.filterMap _

@[simp] theorem settingsOf_cons_name (setting : Setting) (value : Value) (rest : List Member) :
    settingsOf ((some (Named.name setting), value) :: rest) = setting :: settingsOf rest :=
  List.filterMap_cons_some (LawfulNamed.ofName?_name setting)

theorem settingsOf_cons_unknown (unknown : Unknown name) (value : Value) (rest : List Member) :
    settingsOf ((some name, value) :: rest) = settingsOf rest :=
  List.filterMap_cons_none (Named.ofName?_eq_none_iff.mpr unknown)

theorem mem_settingsOf {members : List Member} {setting : Setting} :
    setting ∈ settingsOf members ↔ ∃ value, (some (Named.name setting), value) ∈ members := by
  simp only [settingsOf, List.mem_filterMap, Setting.ofKey?, Option.bind_eq_some_iff,
    Named.ofName?_eq_some_iff]
  constructor
  · rintro ⟨⟨_, value⟩, present, _, rfl, rfl⟩
    exact ⟨value, present⟩
  · rintro ⟨value, present⟩
    exact ⟨_, present, _, rfl, rfl⟩

end

namespace Draft

def Holds (settings : Draft) (given : List Setting) : Prop :=
  ∀ setting, settings.has setting = true ↔ setting ∈ given

theorem holds_empty : ({} : Draft).Holds [] := by
  simp [Holds]

theorem Holds.set {settings : Draft} {given : List Setting} (holds : settings.Holds given)
    (setting : Setting) (choice : setting.Choice) :
    (settings.set setting choice).Holds (given ++ [setting]) := by
  intro other
  by_cases same : other = setting
  · subst same
    simp
  · rw [has_set_of_ne settings same, holds other]
    simp [same]

theorem Holds.has_eq_false {settings : Draft} {given : List Setting} (holds : settings.Holds given)
    {setting : Setting} (first : setting ∉ given) : settings.has setting = false := by
  rw [Bool.eq_false_iff]
  exact mt (holds setting).mp first

end Draft

section

variable {settings : Draft} {given : List Setting}

theorem decodeMembers_unknown {name : String} {value : Value} (unknown : Unknown name)
    (wellFormed : value.wellFormed = true) (settings : Draft) (rest : List Member) :
    decodeMembers settings ((some name, value) :: rest) = decodeMembers settings rest := by
  simp only [decodeMembers, Named.ofName?_eq_none_iff.mpr unknown, wellFormed, if_true]

theorem decodeMembers_first {setting : Setting} (fresh : settings.has setting = false)
    (value : Value) (rest : List Member) :
    decodeMembers settings ((some (Named.name setting), value) :: rest) = (do
      let choice ← setting.decode value
      decodeMembers (settings.set setting choice) rest) := by
  simp [decodeMembers, LawfulNamed.ofName?_name, fresh, Draft.decode_eq]

theorem decodeMembers_of_offends (holds : settings.Holds given) {member : Member}
    {error : DecodeError} (offends : Offends given member error) (rest : List Member) :
    (decodeMembers settings (member :: rest)).run = ⟨.error error, [], []⟩ := by
  cases offends with
  | key => rfl
  | ignored unknown broken =>
      simp only [decodeMembers, Named.ofName?_eq_none_iff.mpr unknown, broken]
      rfl
  | again again =>
      simp only [decodeMembers, LawfulNamed.ofName?_name, (holds _).mpr again]
      rfl
  | refused first refuses =>
      rw [decodeMembers_first (holds.has_eq_false first)]
      exact Decoded.run_bind_error (Setting.decode_of_refuses refuses) _

end

/-- A member that is not at fault takes a draft to the next one, and events are reported. -/
inductive Takes (settings : Draft) : Member → Draft → List Event → Prop
  | ignored {name : String} {value : Value} (unknown : Unknown name)
      (wellFormed : value.wellFormed = true) : Takes settings (some name, value) settings []
  | first {setting : Setting} {value : Value} {choice : setting.Choice}
      (fresh : settings.has setting = false) (spells : setting.Spells value choice) :
      Takes settings (some (Named.name setting), value) (settings.set setting choice)
        (setting.warnings choice)

section

variable {settings next : Draft} {given : List Setting} {member : Member} {events : List Event}

theorem takes_or_offends (holds : settings.Holds given) (member : Member) :
    (∃ next events, Takes settings member next events) ∨ ∃ error, Offends given member error := by
  match member with
  | (none, value) => exact .inr ⟨_, .key value⟩
  | (some name, value) =>
      match known : (Named.ofName? name : Option Setting) with
      | none =>
          have unknown : Unknown name := Named.ofName?_eq_none_iff.mp known
          cases wellFormed : value.wellFormed with
          | false => exact .inr ⟨_, .ignored unknown wellFormed⟩
          | true => exact .inl ⟨_, _, .ignored unknown wellFormed⟩
      | some setting =>
          obtain rfl := Named.ofName?_eq_some_iff.mp known
          by_cases again : setting ∈ given
          · exact .inr ⟨_, .again again value⟩
          · rcases setting.spells_or_refuses value with ⟨choice, spells⟩ | ⟨error, refuses⟩
            · exact .inl ⟨_, _, .first (holds.has_eq_false again) spells⟩
            · exact .inr ⟨error, .refused again refuses⟩

theorem Takes.run_decodeMembers (takes : Takes settings member next events) (rest : List Member) :
    (decodeMembers settings (member :: rest)).run =
      ⟨(decodeMembers next rest).run.value, (decodeMembers next rest).run.calls,
        events ++ (decodeMembers next rest).run.events⟩ := by
  cases takes with
  | ignored unknown wellFormed =>
      rw [decodeMembers_unknown unknown wellFormed]
      rfl
  | first fresh spells =>
      rw [decodeMembers_first fresh]
      exact Decoded.run_bind_ok (Setting.decode_of_spells spells) _

theorem Takes.holds (takes : Takes settings member next events) (holds : settings.Holds given) :
    next.Holds (given ++ settingsOf [member]) := by
  cases takes with
  | ignored unknown wellFormed =>
      rw [settingsOf_cons_unknown unknown, settingsOf_nil, List.append_nil]
      exact holds
  | @first setting value choice fresh spells =>
      rw [settingsOf_cons_name, settingsOf_nil]
      exact holds.set setting choice

end

/-! ## Members in order -/

theorem FirstOffence.reported {given : List Setting} {members : List Member}
    {error : DecodeError} (offence : FirstOffence given members error) {settings : Draft}
    (holds : settings.Holds given) :
    ∃ events, (decodeMembers settings members).run = ⟨.error error, [], events⟩ := by
  induction offence generalizing settings with
  | here offends rest => exact ⟨[], decodeMembers_of_offends holds offends rest⟩
  | @later given member rest error clear offence induction =>
      rcases takes_or_offends holds member with ⟨next, events, takes⟩ | ⟨fault, offends⟩
      · obtain ⟨more, failed⟩ := induction (takes.holds holds)
        rw [takes.run_decodeMembers, failed]
        exact ⟨events ++ more, rfl⟩
      · exact absurd offends (clear fault)

theorem FirstOffence.split {given : List Setting} {members : List Member} {error : DecodeError}
    (offence : FirstOffence given members error) :
    ∃ before member after, members = before ++ member :: after ∧
      Offends (given ++ settingsOf before) member error := by
  induction offence with
  | @here given member error offends rest =>
      exact ⟨[], member, rest, rfl, by simpa using offends⟩
  | @later given first rest error clear offence induction =>
      obtain ⟨before, member, after, rfl, offends⟩ := induction
      refine ⟨first :: before, member, after, rfl, ?_⟩
      rw [List.append_assoc, ← settingsOf_append] at offends
      exact offends

/-- The draft `final` is `settings` with what the members stand for. -/
structure Extends (settings : Draft) (members : List Member) (final : Draft) : Prop where
  readable : Readable members
  once : (settingsOf members).Nodup
  fresh : ∀ setting ∈ settingsOf members, settings.has setting = false
  given : ∀ (setting : Setting) (value : Value), (some (Named.name setting), value) ∈ members →
    ∃ choice, setting.Spells value choice ∧ final.get setting = some choice
  absent : ∀ setting, setting ∉ settingsOf members → final.get setting = settings.get setting

namespace Extends

variable {settings final : Draft} {rest : List Member} {value : Value}

theorem nil (settings : Draft) : Extends settings [] settings where
  readable := nofun
  once := .nil
  fresh := nofun
  given := nofun
  absent _ _ := rfl

theorem unknown {name : String} (unknown : Unknown name)
    (wellFormed : value.wellFormed = true) (extended : Extends settings rest final) :
    Extends settings ((some name, value) :: rest) final where
  readable := List.forall_mem_cons.mpr ⟨⟨rfl, wellFormed⟩, extended.readable⟩
  once := by rw [settingsOf_cons_unknown unknown]; exact extended.once
  fresh := by rw [settingsOf_cons_unknown unknown]; exact extended.fresh
  given := by
    intro setting content present
    rcases List.mem_cons.mp present with same | later
    · cases same
      exact absurd rfl (unknown setting)
    · exact extended.given setting content later
  absent := by rw [settingsOf_cons_unknown unknown]; exact extended.absent

theorem get_held {setting : Setting} {choice : setting.Choice}
    (extended : Extends settings rest final) (held : settings.get setting = some choice) :
    setting ∉ settingsOf rest ∧ final.get setting = some choice := by
  have others : setting ∉ settingsOf rest := by
    intro again
    have has := extended.fresh setting again
    simp [Draft.has_eq, held] at has
  exact ⟨others, (extended.absent setting others).trans held⟩

theorem first {setting : Setting} {choice : setting.Choice} (fresh : settings.has setting = false)
    (spells : setting.Spells value choice)
    (extended : Extends (settings.set setting choice) rest final) :
    Extends settings ((some (Named.name setting), value) :: rest) final := by
  obtain ⟨others, set⟩ := extended.get_held (settings.get_set_self setting choice)
  constructor
  case readable => exact List.forall_mem_cons.mpr ⟨⟨rfl, spells.wellFormed⟩, extended.readable⟩
  case once =>
    rw [settingsOf_cons_name]
    exact List.nodup_cons.mpr ⟨others, extended.once⟩
  case fresh =>
    rw [settingsOf_cons_name]
    refine List.forall_mem_cons.mpr ⟨fresh, fun other later => ?_⟩
    have different : other ≠ setting := fun same => others (same ▸ later)
    rw [← settings.has_set_of_ne different choice]
    exact extended.fresh other later
  case given =>
    intro other content present
    rcases List.mem_cons.mp present with same | later
    · obtain ⟨names, rfl⟩ := Prod.mk.inj same
      obtain rfl := Named.name_injective (Option.some.inj names)
      exact ⟨choice, spells, set⟩
    · exact extended.given other content later
  case absent =>
    intro other missing
    rw [settingsOf_cons_name, List.mem_cons, not_or] at missing
    rw [extended.absent other missing.2, Draft.get_set_of_ne settings missing.1]

end Extends

section

variable {settings next final : Draft} {member : Member} {rest : List Member} {events : List Event}

theorem Takes.extends (takes : Takes settings member next events)
    (extended : Extends next rest final) : Extends settings (member :: rest) final := by
  cases takes with
  | ignored unknown wellFormed => exact extended.unknown unknown wellFormed
  | first fresh spells => exact extended.first fresh spells

theorem Takes.warnings (takes : Takes settings member next events)
    (extended : Extends next rest final) :
    (settingsOf (member :: rest)).flatMap (fun setting =>
        setting.warnings (final.complete.get setting)) =
      events ++ (settingsOf rest).flatMap fun setting =>
        setting.warnings (final.complete.get setting) := by
  cases takes with
  | ignored unknown wellFormed =>
      rw [settingsOf_cons_unknown unknown]
      rfl
  | @first setting value choice fresh spells =>
      have held := (extended.get_held (settings.get_set_self setting choice)).2
      rw [settingsOf_cons_name, List.flatMap_cons, Draft.get_complete, held]
      rfl

end

theorem extends_or_offends (members : List Member) {settings : Draft} {given : List Setting}
    (holds : settings.Holds given) :
    (∃ final, Extends settings members final ∧
      (decodeMembers settings members).run =
        ⟨.ok final, [], (settingsOf members).flatMap fun setting =>
          setting.warnings (final.complete.get setting)⟩) ∨
    ∃ error, FirstOffence given members error := by
  induction members generalizing settings given with
  | nil => exact .inl ⟨settings, .nil settings, rfl⟩
  | cons member rest induction =>
      by_cases offends : ∃ error, Offends given member error
      · obtain ⟨error, offends⟩ := offends
        exact .inr ⟨error, .here offends rest⟩
      · obtain ⟨next, events, takes⟩ := (takes_or_offends holds member).resolve_right offends
        rcases induction (takes.holds holds) with ⟨final, extended, run⟩ | ⟨error, offence⟩
        · refine .inl ⟨final, takes.extends extended, ?_⟩
          rw [takes.run_decodeMembers, run, takes.warnings extended]
        · exact .inr ⟨error, .later (not_exists.mp offends) offence⟩

/-! ## Objects -/

def decodeObject (members : List Member) : Traced (Except DecodeError Config) :=
  (decodeDocument ⟨.object members true, true⟩).run

def Valid (members : List Member) : Prop :=
  ∀ (setting : Setting) (value : Value), (some (Named.name setting), value) ∈ members →
    ∃ choice, setting.Spells value choice

section

variable {members : List Member} {config other : Config} {error : DecodeError}

theorem Denotes.unique (denotes : Denotes members config) (denotesOther : Denotes members other) :
    config = other := by
  apply eq_of_get
  intro setting
  by_cases given : setting ∈ settingsOf members
  · obtain ⟨value, present⟩ := mem_settingsOf.mp given
    exact (denotes.given setting value present).unique (denotesOther.given setting value present)
  · rw [denotes.absent setting given, denotesOther.absent setting given]

theorem Extends.denotes {final : Draft} (extended : Extends {} members final) :
    Denotes members final.complete where
  readable := extended.readable
  once := extended.once
  given := by
    intro setting value present
    obtain ⟨choice, spells, set⟩ := extended.given setting value present
    rwa [Draft.get_complete, set]
  absent := by
    intro setting missing
    rw [Draft.get_complete, extended.absent setting missing, Draft.get_empty]
    rfl

theorem not_firstOffence (readable : Readable members) (once : (settingsOf members).Nodup)
    (valid : Valid members) : ¬FirstOffence [] members error := by
  intro offence
  obtain ⟨before, member, after, rfl, offends⟩ := offence.split
  have present : member ∈ before ++ member :: after := by simp
  cases offends with
  | key => exact absurd (readable _ present).1 nofun
  | ignored _ broken => exact absurd (readable _ present).2 (by simp [broken])
  | again again =>
      rw [settingsOf_append, settingsOf_cons_name, List.nodup_append] at once
      exact once.2.2 _ again _ List.mem_cons_self rfl
  | refused _ refuses =>
      obtain ⟨choice, spells⟩ := valid _ _ present
      exact spells.not_refuses _ refuses

theorem Denotes.valid (denotes : Denotes members config) : Valid members :=
  fun setting value present => ⟨_, denotes.given setting value present⟩

theorem Denotes.tagLength (denotes : Denotes members config) :
    (Setting.tagLength ∉ settingsOf members ∧ config.tagLength = .full) ∨
      ∃ digits, (some "tag_length", .numeral ⟨false, digits, none, none⟩) ∈ members ∧
        Numeral.ofDigits digits = config.tagLength.bytes := by
  by_cases given : Setting.tagLength ∈ settingsOf members
  · obtain ⟨value, present⟩ := mem_settingsOf.mp given
    obtain @⟨digits, _, number⟩ := denotes.given .tagLength value present
    exact .inr ⟨digits, present, number⟩
  · exact .inl ⟨given, denotes.absent .tagLength given⟩

theorem decodeObject_eq (members : List Member) :
    decodeObject members = (Draft.complete <$> decodeMembers {} members).run := by
  simp [decodeObject, decodeDocument, decodeValue]

theorem denotes_or_offends (members : List Member) :
    (∃ config, Denotes members config ∧
      decodeObject members = ⟨.ok config, [], (settingsOf members).flatMap fun setting =>
        setting.warnings (config.get setting)⟩) ∨
    ∃ error, FirstOffence [] members error := by
  rcases extends_or_offends members Draft.holds_empty with ⟨final, extended, run⟩ | offence
  · refine .inl ⟨final.complete, extended.denotes, ?_⟩
    rw [decodeObject_eq, ExceptT.run_map, run]
    exact Traced.ext rfl rfl (List.append_nil _)
  · exact .inr offence

theorem value_decodeObject_eq_error_iff :
    (decodeObject members).value = .error error ↔ FirstOffence [] members error := by
  have reported {error : DecodeError} (offence : FirstOffence [] members error) :
      (decodeObject members).value = .error error := by
    obtain ⟨events, run⟩ := offence.reported Draft.holds_empty
    rw [decodeObject_eq, ExceptT.run_map, run]
    rfl
  constructor
  · intro failed
    rcases denotes_or_offends members with ⟨config, _, run⟩ | ⟨first, offence⟩
    · rw [run] at failed
      cases failed
    · rw [reported offence] at failed
      cases failed
      exact offence
  · exact reported

theorem decodeObject_of_denotes (denotes : Denotes members config) :
    decodeObject members = ⟨.ok config, [], (settingsOf members).flatMap fun setting =>
      setting.warnings (config.get setting)⟩ := by
  rcases denotes_or_offends members with ⟨found, denotesFound, run⟩ | ⟨error, offence⟩
  · rw [run, denotes.unique denotesFound]
  · exact absurd offence (not_firstOffence denotes.readable denotes.once denotes.valid)

theorem value_decodeObject_eq_ok_iff :
    (decodeObject members).value = .ok config ↔ Denotes members config := by
  constructor
  · intro done
    rcases denotes_or_offends members with ⟨found, denotes, run⟩ | ⟨error, offence⟩
    · rw [run] at done
      cases done
      exact denotes
    · rw [value_decodeObject_eq_error_iff.mpr offence] at done
      cases done
  · intro denotes
    rw [decodeObject_of_denotes denotes]

theorem exists_denotes_iff :
    (∃ config, Denotes members config) ↔
      Readable members ∧ (settingsOf members).Nodup ∧ Valid members := by
  constructor
  · rintro ⟨config, denotes⟩
    exact ⟨denotes.readable, denotes.once, denotes.valid⟩
  · rintro ⟨readable, once, valid⟩
    rcases denotes_or_offends members with ⟨config, denotes, _⟩ | ⟨error, offence⟩
    · exact ⟨config, denotes⟩
    · exact absurd offence (not_firstOffence readable once valid)

theorem Denotes.perm {reordered : List Member} (order : members.Perm reordered)
    (denotes : Denotes members config) : Denotes reordered config := by
  have settings := settingsOf_perm order
  constructor
  case readable => exact fun member present => denotes.readable member (order.mem_iff.mpr present)
  case once => exact settings.nodup_iff.mp denotes.once
  case given =>
    exact fun setting value present => denotes.given setting value (order.mem_iff.mpr present)
  case absent =>
    exact fun setting missing => denotes.absent setting (mt settings.mem_iff.mp missing)

end

/-- At most one setting reports anything, so that reports do not depend on the order. -/
theorem warnings_comm (config : Config) (first second : Setting) :
    first.warnings (config.get first) ++ second.warnings (config.get second) =
      second.warnings (config.get second) ++ first.warnings (config.get first) := by
  cases first <;> cases second <;> simp [Setting.warnings]

theorem flatMap_warnings_perm (config : Config) {settings reordered : List Setting}
    (order : settings.Perm reordered) :
    (settings.flatMap fun setting => setting.warnings (config.get setting)) =
      reordered.flatMap fun setting => setting.warnings (config.get setting) := by
  induction order with
  | nil => rfl
  | cons setting _ induction => rw [List.flatMap_cons, List.flatMap_cons, induction]
  | swap first second rest =>
      simp only [List.flatMap_cons, ← List.append_assoc, warnings_comm]
  | trans _ _ first second => rw [first, second]

theorem decodeObject_perm {members reordered : List Member} (order : members.Perm reordered)
    {config : Config} {events : List Event}
    (done : decodeObject members = ⟨.ok config, [], events⟩) :
    decodeObject reordered = ⟨.ok config, [], events⟩ := by
  have denotes := value_decodeObject_eq_ok_iff.mp (congrArg Traced.value done)
  rw [decodeObject_of_denotes denotes] at done
  rw [decodeObject_of_denotes (denotes.perm order),
    ← flatMap_warnings_perm config (settingsOf_perm order)]
  exact done

/-! ## Members that are no settings -/

theorem decodeMembers_insert {name : String} {value : Value} (unknown : Unknown name)
    (wellFormed : value.wellFormed = true) (settings : Draft) (before after : List Member) :
    decodeMembers settings (before ++ (some name, value) :: after) =
      decodeMembers settings (before ++ after) := by
  induction before generalizing settings with
  | nil => exact decodeMembers_unknown unknown wellFormed settings after
  | cons member before induction =>
      match member with
      | (none, _) => rfl
      | (some _, _) => simp only [List.cons_append, decodeMembers, induction]

/-! ## Arrays -/

def decodeArray (items : List Value) : Traced (Except DecodeError Config) :=
  (decodeDocument ⟨.array items true, true⟩).run

/-- Items as the values of the settings in the order of their declaration. -/
def membersOf (items : List Value) : List Member :=
  (Named.choices : List Setting).zipWith
    (fun setting value => (some (Named.name setting), value)) items

theorem decodeArray_eq (items : List Value) :
    decodeArray items = (Draft.complete <$> decodeItems {} Named.choices items).run := by
  simp [decodeArray, decodeDocument, decodeValue]

theorem decodeItems_eq_decodeMembers {settings : Draft} {names : List Setting} (once : names.Nodup)
    (fresh : ∀ setting ∈ names, settings.has setting = false) {items : List Value}
    (few : items.length ≤ names.length) :
    decodeItems settings names items =
      decodeMembers settings
        (names.zipWith (fun setting value => (some (Named.name setting), value)) items) := by
  induction names generalizing settings items with
  | nil =>
      obtain rfl := List.eq_nil_of_length_eq_zero (Nat.le_zero.mp few)
      rfl
  | cons setting names induction =>
      cases items with
      | nil => rfl
      | cons value items =>
          rw [List.zipWith_cons_cons, decodeMembers_first (fresh setting List.mem_cons_self),
            decodeItems, Draft.decode_eq, bind_assoc]
          refine bind_congr fun choice => ?_
          rw [pure_bind]
          refine induction once.tail ?_ (Nat.le_of_succ_le_succ few)
          intro other later
          have different : other ≠ setting := by
            rintro rfl
            exact (List.nodup_cons.mp once).1 later
          rw [settings.has_set_of_ne different]
          exact fresh other (List.mem_cons_of_mem setting later)

theorem decodeArray_eq_decodeObject {items : List Value} (few : items.length ≤ 5) :
    decodeArray items = decodeObject (membersOf items) := by
  rw [decodeArray_eq, decodeObject_eq, membersOf,
    decodeItems_eq_decodeMembers (by decide) (by simp) few]

theorem decodeItems_excess {settings : Draft} {names : List Setting} {items : List Value}
    (excess : names.length < items.length) (final : Draft) :
    (decodeItems settings names items).run.value ≠ .ok final := by
  induction names generalizing settings items with
  | nil =>
      match items with
      | _ :: _ => exact nofun
  | cons setting names induction =>
      match items with
      | value :: items =>
          rw [decodeItems, Draft.decode_eq, bind_assoc]
          rcases setting.spells_or_refuses value with ⟨choice, spells⟩ | ⟨error, refuses⟩
          · rw [Decoded.run_bind_ok (Setting.decode_of_spells spells)]
            exact induction (Nat.lt_of_succ_lt_succ excess)
          · rw [Decoded.run_bind_error (Setting.decode_of_refuses refuses)]
            exact nofun

/-! ## Texts -/

/-- The members that a text gives, as an object or as an array of at most five items. -/
inductive Gives : Document → List Member → Prop
  | object (members : List Member) : Gives ⟨.object members true, true⟩ members
  | array {items : List Value} (few : items.length ≤ 5) :
      Gives ⟨.array items true, true⟩ (membersOf items)

theorem whole_of_ok {document : Document} {config : Config}
    (done : (decodeDocument document).run.value = .ok config) :
    (∃ members, document = ⟨.object members true, true⟩) ∨
      ∃ items, document = ⟨.array items true, true⟩ := by
  obtain ⟨value, complete⟩ := document
  obtain ⟨found, read, finish⟩ := Decoded.of_value_bind_ok done
  cases complete with
  | false => cases finish
  | true =>
      cases value with
      | object members closed =>
          obtain ⟨settings, _, finish⟩ := Decoded.of_value_bind_ok read
          cases closed with
          | false => cases finish
          | true => exact .inl ⟨members, rfl⟩
      | array items closed =>
          obtain ⟨settings, _, finish⟩ := Decoded.of_value_bind_ok read
          cases closed with
          | false => cases finish
          | true => exact .inr ⟨items, rfl⟩
      | _ => cases read

theorem value_decodeDocument_eq_ok_iff {document : Document} {config : Config} :
    (decodeDocument document).run.value = .ok config ↔
      ∃ members, Gives document members ∧ Denotes members config := by
  constructor
  · intro done
    rcases whole_of_ok done with ⟨members, rfl⟩ | ⟨items, rfl⟩
    · exact ⟨members, .object members, value_decodeObject_eq_ok_iff.mp done⟩
    · by_cases few : items.length ≤ 5
      · refine ⟨membersOf items, .array few, value_decodeObject_eq_ok_iff.mp ?_⟩
        rw [← decodeArray_eq_decodeObject few]
        exact done
      · obtain ⟨_, read, _⟩ := Decoded.of_value_bind_ok done
        obtain ⟨settings, read, _⟩ := Decoded.of_value_bind_ok read
        exact absurd read (decodeItems_excess (Nat.lt_of_not_le few) settings)
  · rintro ⟨members, gives, denotes⟩
    have accepted := value_decodeObject_eq_ok_iff.mpr denotes
    cases gives with
    | object => exact accepted
    | array few =>
        rw [← decodeArray_eq_decodeObject few] at accepted
        exact accepted

/-- Objects are read by their members, in whatever order and among whatever others. The first fault
in the order of the text is the one reported, and arrays are read as objects. -/
theorem objects_are_read_by_member :
    (∀ members : List Member,
      ((∃ config, (decodeObject members).value = .ok config) ↔
        Readable members ∧ (settingsOf members).Nodup ∧ Valid members) ∧
      (∀ config, (decodeObject members).value = .ok config →
        (∀ (setting : Setting) (value : Value), (some (Named.name setting), value) ∈ members →
          setting.Spells value (config.get setting)) ∧
        (∀ setting, setting ∉ settingsOf members →
          config.get setting = ({} : Config).get setting) ∧
        (decodeObject members).events =
          (settingsOf members).flatMap fun setting => setting.warnings (config.get setting)) ∧
      (∀ error, (decodeObject members).value = .error error ↔ FirstOffence [] members error) ∧
      ∀ reordered, members.Perm reordered → ∀ config events,
        (decodeObject reordered = ⟨.ok config, [], events⟩ ↔
          decodeObject members = ⟨.ok config, [], events⟩)) ∧
    (∀ (before after : List Member) (name : String) (value : Value),
      Unknown name → value.wellFormed →
        decodeObject (before ++ (some name, value) :: after) = decodeObject (before ++ after)) ∧
    (∀ items : List Value, items.length ≤ 5 → decodeArray items = decodeObject (membersOf items)) ∧
    ∀ text,
      (∀ members, Json.readDocument text = ⟨.object members true, true⟩ →
        decode text = decodeObject members) ∧
      ∀ config,
        ((decode text).value = .ok config ↔
          ∃ members, Gives (Json.readDocument text) members ∧ Denotes members config) ∧
        ((decode text).value = .ok config →
          8 ≤ config.tagLength.bytes ∧ config.tagLength.bytes ≤ 16 ∧
            ∃ members, Gives (Json.readDocument text) members ∧
              ((Setting.tagLength ∉ settingsOf members ∧ config.tagLength = .full) ∨
                ∃ digits, (some "tag_length", .numeral ⟨false, digits, none, none⟩) ∈ members ∧
                  Numeral.ofDigits digits = config.tagLength.bytes)) := by
  refine ⟨fun members => ⟨?_, ?_, fun error => value_decodeObject_eq_error_iff, ?_⟩, ?_,
    fun items => decodeArray_eq_decodeObject, fun text => ⟨?_, fun config => ⟨?_, ?_⟩⟩⟩
  · simp only [value_decodeObject_eq_ok_iff, exists_denotes_iff]
  · intro config done
    have denotes := value_decodeObject_eq_ok_iff.mp done
    exact ⟨denotes.given, denotes.absent, congrArg Traced.events (decodeObject_of_denotes denotes)⟩
  · intro reordered order config events
    exact ⟨decodeObject_perm order.symm, decodeObject_perm order⟩
  · intro before after name value unknown wellFormed
    rw [decodeObject_eq, decodeObject_eq, decodeMembers_insert unknown wellFormed]
  · intro members object
    rw [decode, object, decodeObject]
  · exact value_decodeDocument_eq_ok_iff
  · intro accepted
    obtain ⟨members, gives, denotes⟩ := value_decodeDocument_eq_ok_iff.mp accepted
    exact ⟨config.tagLength.atLeast, config.tagLength.atMost, members, gives, denotes.tagLength⟩

theorem objects_are_read_by_member_table_backend :
    let before : List Member :=
      [(some "note", .array [.null] true),
        (some "ghash_backend", .object [(some "Table", .null)] true)]
    let large : Value := .numeral ⟨false, [1], none, some (false, [9, 9, 9])⟩
    let after : List Member :=
      [(some "tag_length", .numeral ⟨false, [1, 1], none, none⟩),
        (some "aad_policy", .string (some "Optional"))]
    let length : TagLength := ⟨11, by decide, by decide⟩
    let reading : Traced (Except DecodeError Config) :=
      ⟨.ok ⟨length, .standard, .optional, .any, .table⟩, [], [.tagTruncated 88 96]⟩
    let seven : Member := (some "tag_length", .numeral ⟨false, [7], none, none⟩)
    let eight : Member := (some "tag_length", .numeral ⟨false, [8], none, none⟩)
    decodeObject (before ++ after) = reading ∧
      decodeObject (before ++ (some "note", large) :: after) = reading ∧
      decodeObject (before ++ after).reverse = reading ∧
      (decodeObject [seven, eight]).value = .error (.rejected (.tagLengthOutOfRange 7)) ∧
      (decode "[11]").value = .ok { tagLength := length } := by
  intro before large after length reading seven eight
  obtain ⟨byMember, insertion, -, texts⟩ := objects_are_read_by_member
  have accepted : decodeObject (before ++ after) = reading := by rfl
  refine ⟨accepted, ?_, ?_, ?_, ?_⟩
  · have unknown : Unknown "note" := by
      intro setting
      cases setting <;> decide
    exact (insertion before after "note" large unknown rfl).trans accepted
  · exact ((byMember _).2.2.2 _ (List.reverse_perm _).symm _ _).mpr accepted
  · have refuses : Setting.tagLength.Refuses seven.2 (.rejected (.tagLengthOutOfRange 7)) :=
      Setting.RefusesLength.outOfRange (by decide) (by decide)
    have offends : Offends [] seven (.rejected (.tagLengthOutOfRange 7)) :=
      .refused List.not_mem_nil refuses
    exact ((byMember _).2.2.1 _).mpr (.here offends [eight])
  · have gives : Gives (Json.readDocument "[11]")
        (membersOf [.numeral ⟨false, [1, 1], none, none⟩]) := .array (by decide)
    exact ((texts _).2 _).1.mpr ⟨_, gives, value_decodeObject_eq_ok_iff.mp (by rfl)⟩

end GaloisCounter.Config
