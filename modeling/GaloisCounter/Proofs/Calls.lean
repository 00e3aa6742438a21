import GaloisCounter.Context.Run

/-!
What a call on a context can do.

A call is either refused, with an error about an argument or about the order of calls, or it does
its work. `perform_cases` says all that each kind of call can then do, whatever the context.
-/

namespace GaloisCounter

/-! ## Checks -/

/-- A check that fails only because of an argument or the order of calls. -/
def OnlyRefuses (result : Except Error Value) : Prop :=
  ∀ error, result = .error error → error.category = .invalidArgument

namespace OnlyRefuses

theorem ok (value : Value) : OnlyRefuses (.ok value : Except Error Value) :=
  fun _ impossible => nomatch impossible

theorem error {cause : Error} (category : cause.category = .invalidArgument) :
    OnlyRefuses (.error cause : Except Error Value) := by
  intro error equal
  cases equal
  exact category

theorem guard {condition : Prop} [Decidable condition] {cause : Error}
    {rest : Except Error Value} (category : cause.category = .invalidArgument)
    (restRefuses : OnlyRefuses rest) :
    OnlyRefuses (if condition then .error cause else rest) := by
  split
  · exact error category
  · exact restRefuses

theorem bind {first : Except Error First} {next : First → Except Error Second}
    (firstRefuses : OnlyRefuses first) (nextRefuses : ∀ value, OnlyRefuses (next value)) :
    OnlyRefuses (first >>= next) := by
  cases first with
  | error cause =>
      intro error equal
      cases equal
      exact firstRefuses cause rfl
  | ok value => exact nextRefuses value

end OnlyRefuses

theorem checks_eq_ok_iff {first : Except Error Unit} {second : Except Error Value}
    {value : Value} :
    (do first; second) = .ok value ↔ first = .ok () ∧ second = .ok value := by
  cases first with
  | error error => simp [bind, Except.bind]
  | ok _ => simp [bind, Except.bind]

theorem TagLength.calls_ofBytes (length : Nat) : (TagLength.ofBytes length).calls = [] := by
  unfold TagLength.ofBytes
  split
  · split <;> rfl
  · rfl

namespace Config

theorem onlyRefuses_validateIv (config : Config) (iv : Bytes) :
    OnlyRefuses (config.validateIv iv) :=
  .guard rfl (.guard rfl (.guard rfl (.ok ())))

theorem onlyRefuses_validateAad (config : Config) (aad : Bytes) :
    OnlyRefuses (config.validateAad aad) :=
  .guard rfl (.guard rfl (.ok ()))

def validateStart (config : Config) (iv aad : Bytes) : Except Error Unit := do
  config.validateIv iv
  config.validateAad aad

theorem onlyRefuses_validateStart (config : Config) (iv aad : Bytes) :
    OnlyRefuses (config.validateStart iv aad) :=
  (config.onlyRefuses_validateIv iv).bind fun _ => config.onlyRefuses_validateAad aad

theorem validateStart_eq_ok_iff {config : Config} {iv aad : Bytes} :
    config.validateStart iv aad = .ok () ↔
      config.validateIv iv = .ok () ∧ config.validateAad aad = .ok () :=
  checks_eq_ok_iff

theorem onlyRefuses_validateText (config : Config) (processed : UInt64) (additional : Nat) :
    OnlyRefuses (config.validateText processed additional) :=
  .guard rfl (.guard rfl (.ok ()))

theorem validateStart_eq_of_length_eq (config : Config) {iv aad otherIv otherAad : Bytes}
    (ivLength : iv.length = otherIv.length) (aadLength : aad.length = otherAad.length) :
    config.validateStart iv aad = config.validateStart otherIv otherAad := by
  have isEmpty {first second : Bytes} (same : first.length = second.length) :
      first.isEmpty = second.isEmpty := by
    rw [Bool.eq_iff_iff, List.isEmpty_iff_length_eq_zero, List.isEmpty_iff_length_eq_zero, same]
  rw [validateStart, validateStart, validateIv, validateIv, validateAad, validateAad,
    isEmpty ivLength, isEmpty aadLength, ivLength, aadLength]

end Config

namespace Context

variable {Key : Type} (context : Context Key)

theorem onlyRefuses_checkUpdate (length : Nat) : OnlyRefuses (context.checkUpdate length) :=
  .guard rfl (.guard rfl (context.config.onlyRefuses_validateText _ _))

theorem onlyRefuses_checkFinalise (operation : String) (expected : Direction) :
    OnlyRefuses (context.checkFinalise operation expected) :=
  .guard rfl (.guard rfl (.ok ()))

theorem isOpen_of_checkUpdate {length : Nat} (valid : context.checkUpdate length = .ok ()) :
    context.phase.isOpen := by
  unfold checkUpdate at valid
  cases phase : context.phase.isOpen with
  | false => simp [phase] at valid
  | true => rfl

theorem checkFinalise_eq_ok_iff (operation : String) (expected : Direction) :
    context.checkFinalise operation expected = .ok () ↔
      context.phase.isOpen ∧ context.direction = some expected := by
  unfold checkFinalise
  cases phase : context.phase.isOpen with
  | false => simp
  | true =>
      by_cases same : context.direction = some expected
      · simp [same]
      · simp [same]

theorem value_checkTagLength (length : Nat) :
    (context.checkTagLength length).value =
      if 8 ≤ length ∧ length ≤ 16 then
        if length = context.config.tagLength.bytes then .ok ()
        else .error (.tagLengthMismatch "tag" context.config.tagLength.bytes length)
      else .error (.tagLengthOutOfRange length) := by
  rw [checkTagLength, Traced.value_bind, TagLength.value_ofBytes]
  by_cases bounds : 8 ≤ length ∧ length ≤ 16
  · have same : (⟨length, bounds.1, bounds.2⟩ : TagLength) = context.config.tagLength ↔
        length = context.config.tagLength.bytes := by
      rw [TagLength.mk.injEq]
    rw [dif_pos bounds, if_pos bounds]
    by_cases equal : length = context.config.tagLength.bytes
    · simp only [same, if_pos equal]
      rfl
    · simp only [same, if_neg equal]
      rfl
  · rw [dif_neg bounds, if_neg bounds]
    rfl

@[simp] theorem calls_checkTagLength (length : Nat) :
    (context.checkTagLength length).calls = [] := by
  rw [checkTagLength, Traced.calls_bind, TagLength.calls_ofBytes, List.nil_append]
  split
  · rfl
  · split <;> rfl

theorem onlyRefuses_checkTagLength (length : Nat) :
    OnlyRefuses (context.checkTagLength length).value := by
  rw [value_checkTagLength]
  split
  · split
    · exact OnlyRefuses.ok ()
    · exact OnlyRefuses.error rfl
  · exact OnlyRefuses.error rfl

theorem checkTagLength_eq_ok_iff (length : Nat) :
    (context.checkTagLength length).value = .ok () ↔ length = context.config.tagLength.bytes := by
  have atLeast := context.config.tagLength.atLeast
  have atMost := context.config.tagLength.atMost
  rw [value_checkTagLength]
  constructor
  · intro accepted
    split at accepted
    · split at accepted
      · assumption
      · cases accepted
    · cases accepted
  · intro equal
    rw [if_pos (by omega), if_pos equal]

end Context

/-! ## What a call does -/

/-- The answer is a refusal: it neither gives a result nor judges a tag. -/
def Rejected (answer : Except Error Value) : Prop :=
  ∃ error, answer = .error error ∧ error.category = .invalidArgument

instance (answer : Except Error Value) : Decidable (Rejected answer) :=
  match answer with
  | .error error =>
      decidable_of_iff (error.category = .invalidArgument) <| by
        constructor
        · intro category
          exact ⟨error, rfl, category⟩
        · rintro ⟨_, equal, category⟩
          cases equal
          exact category
  | .ok _ => isFalse <| by
      rintro ⟨_, impossible, _⟩
      cases impossible

namespace Operation

def buffer : Operation → Bytes
  | .update _ output => output
  | .updateInPlace buffer => buffer
  | _ => []

def isInitialise : Operation → Bool
  | .initialise .. => true
  | _ => false

def isFinalise : Operation → Bool
  | .finaliseEncryption => true
  | .finaliseDecryption _ => true
  | _ => false

end Operation

namespace Context

variable {Key : Type} [BlockCipher Key]

section

variable {context : Context Key} {direction : Direction} {iv aad : Bytes}

theorem initialise_of_error {error : Error}
    (rejected : context.config.validateStart iv aad = .error error) :
    context.initialise direction iv aad = pure { answer := .error error, context } := by
  rw [Config.validateStart] at rejected
  rw [initialise, rejected]

theorem initialise_of_valid (valid : context.config.validateStart iv aad = .ok ()) :
    (context.initialise direction iv aad).value =
      { answer := .ok ()
        context := { context with
          session := some (Session.start context.key context.config.backend iv aad).value
          direction := some direction
          phase := .aadAbsorbed } } ∧
    (context.initialise direction iv aad).calls = [Block.zero] := by
  rw [Config.validateStart] at valid
  rw [initialise, valid]
  exact ⟨rfl, rfl⟩

end

/-- The call is turned down, and leaves the context and the caller's buffer as they were. -/
def Refuses (context : Context Key) (operation : Operation) : Prop :=
  ∃ error, error.category = .invalidArgument ∧
    (context.perform operation).value = (⟨.error error, operation.buffer⟩, context) ∧
    (context.perform operation).calls = []

/-- The call does its work: it gives a reply, leaves a context and has blocks encrypted. -/
inductive Accepts (context : Context Key) :
    Operation → Reply → Context Key → List Block → Prop
  | initialise {direction : Direction} {iv aad : Bytes}
      (valid : context.config.validateStart iv aad = .ok ()) :
      Accepts context (.initialise direction iv aad) ⟨.ok .done, []⟩
        { context with
          session := some (Session.start context.key context.config.backend iv aad).value
          direction := some direction
          phase := .aadAbsorbed }
        [Block.zero]
  | update {input output : Bytes} (fits : input.length ≤ output.length)
      (valid : context.checkUpdate input.length = .ok ()) :
      Accepts context (.update input output)
        ⟨.ok (.written input.length),
          (context.process input).value.2 ++ output.drop input.length⟩
        (context.process input).value.1 (context.process input).calls
  | updateInPlace {buffer : Bytes} (valid : context.checkUpdate buffer.length = .ok ()) :
      Accepts context (.updateInPlace buffer) ⟨.ok .done, (context.process buffer).value.2⟩
        (context.process buffer).value.1 (context.process buffer).calls
  | finaliseEncryption {session : Session} (isOpen : context.phase.isOpen)
      (direction : context.direction = some .encrypt) (present : context.session = some session) :
      Accepts context .finaliseEncryption
        ⟨.ok (.sealed (Tag.ofBlock (session.tagBlock context.key).value
          context.config.tagLength)), []⟩
        { context with session := none, phase := .finalised }
        (session.tagBlock context.key).calls
  | verified {tag : Bytes} {session : Session} (isOpen : context.phase.isOpen)
      (direction : context.direction = some .decrypt) (present : context.session = some session)
      (sized : tag.length = context.config.tagLength.bytes)
      (verdict : Tag.verifyBlock (session.tagBlock context.key).value tag = true) :
      Accepts context (.finaliseDecryption tag) ⟨.ok .done, []⟩
        { context with session := none, phase := .finalised }
        (session.tagBlock context.key).calls
  | failed {tag : Bytes} {session : Session} (isOpen : context.phase.isOpen)
      (direction : context.direction = some .decrypt) (present : context.session = some session)
      (sized : tag.length = context.config.tagLength.bytes)
      (verdict : Tag.verifyBlock (session.tagBlock context.key).value tag = false) :
      Accepts context (.finaliseDecryption tag)
        ⟨.error (.notAuthentic "finalize_decryption" "tag mismatch"), []⟩
        { context with session := none, phase := .failed }
        (session.tagBlock context.key).calls

namespace Accepts

variable {context : Context Key} {operation : Operation} {reply : Reply} {next : Context Key}
  {calls : List Block}

theorem perform_eq (accepts : context.Accepts operation reply next calls) :
    (context.perform operation).value = (reply, next) ∧
      (context.perform operation).calls = calls := by
  cases accepts with
  | initialise valid =>
      rcases initialise_of_valid valid with ⟨value, calls⟩
      rw [perform, Traced.value_bind, Traced.calls_bind, value, calls]
      exact ⟨rfl, rfl⟩
  | @update input output fits valid =>
      have notShort : ¬output.length < input.length := by omega
      rw [perform, Context.update, if_neg notShort, valid]
      exact ⟨rfl, by simp⟩
  | updateInPlace valid =>
      rw [perform, Context.updateInPlace, valid]
      exact ⟨rfl, by simp⟩
  | finaliseEncryption isOpen direction present =>
      have valid := (context.checkFinalise_eq_ok_iff "finalize_encryption" .encrypt).mpr
        ⟨isOpen, direction⟩
      rw [perform, Context.finaliseEncryption, valid, present]
      exact ⟨rfl, by simp⟩
  | verified isOpen direction present sized verdict
  | failed isOpen direction present sized verdict =>
      have valid := (context.checkFinalise_eq_ok_iff "finalize_decryption" .decrypt).mpr
        ⟨isOpen, direction⟩
      have length := (context.checkTagLength_eq_ok_iff _).mpr sized
      rw [perform, Context.finaliseDecryption, valid]
      simp [length, present, verdict, Outcome.reply, Except.map]

theorem not_rejected (accepts : context.Accepts operation reply next calls) :
    ¬Rejected reply.answer := by
  rintro ⟨error, equal, category⟩
  cases accepts with
  | failed isOpen direction present sized verdict =>
      cases equal
      cases category
  | _ => cases equal

theorem answer_of_isInitialise (accepts : context.Accepts operation reply next calls)
    (starts : operation.isInitialise) : reply.answer = .ok .done := by
  cases accepts with
  | initialise valid => rfl
  | _ => cases starts

theorem isOpen (accepts : context.Accepts operation reply next calls) :
    (∃ direction iv aad, operation = .initialise direction iv aad) ∨ context.phase.isOpen := by
  cases accepts with
  | initialise valid => exact .inl ⟨_, _, _, rfl⟩
  | update fits valid => exact .inr (context.isOpen_of_checkUpdate valid)
  | updateInPlace valid => exact .inr (context.isOpen_of_checkUpdate valid)
  | finaliseEncryption isOpen direction present => exact .inr isOpen
  | verified isOpen direction present sized verdict => exact .inr isOpen
  | failed isOpen direction present sized verdict => exact .inr isOpen

end Accepts

section

variable (context : Context Key)

theorem perform_initialise_cases (direction : Direction) (iv aad : Bytes) :
    context.Refuses (.initialise direction iv aad) ∨
      ∃ reply next calls, context.Accepts (.initialise direction iv aad) reply next calls := by
  cases checked : context.config.validateStart iv aad with
  | error error =>
      refine .inl ⟨error, context.config.onlyRefuses_validateStart iv aad error checked, ?_, ?_⟩
      all_goals
        rw [perform, initialise_of_error checked]
        rfl
  | ok _ => exact .inr ⟨_, _, _, Accepts.initialise checked⟩

theorem perform_update_cases (input output : Bytes) :
    context.Refuses (.update input output) ∨
      ∃ reply next calls, context.Accepts (.update input output) reply next calls := by
  by_cases short : output.length < input.length
  · refine .inl ⟨.outputTooSmall "output" input.length output.length, rfl, ?_, ?_⟩
    all_goals
      rw [perform, update, if_pos short]
      rfl
  · cases checked : context.checkUpdate input.length with
    | error error =>
        refine .inl ⟨error, context.onlyRefuses_checkUpdate _ error checked, ?_, ?_⟩
        all_goals
          rw [perform, update, if_neg short, checked]
          rfl
    | ok _ => exact .inr ⟨_, _, _, Accepts.update (by omega) checked⟩

theorem perform_updateInPlace_cases (buffer : Bytes) :
    context.Refuses (.updateInPlace buffer) ∨
      ∃ reply next calls, context.Accepts (.updateInPlace buffer) reply next calls := by
  cases checked : context.checkUpdate buffer.length with
  | error error =>
      refine .inl ⟨error, context.onlyRefuses_checkUpdate _ error checked, ?_, ?_⟩
      all_goals
        rw [perform, updateInPlace, checked]
        rfl
  | ok _ => exact .inr ⟨_, _, _, Accepts.updateInPlace checked⟩

theorem perform_finaliseEncryption_cases :
    context.Refuses .finaliseEncryption ∨
      ∃ reply next calls, context.Accepts .finaliseEncryption reply next calls := by
  cases checked : context.checkFinalise "finalize_encryption" .encrypt with
  | error error =>
      refine .inl ⟨error, context.onlyRefuses_checkFinalise _ _ error checked, ?_, ?_⟩
      all_goals
        rw [perform, finaliseEncryption, checked]
        rfl
  | ok _ =>
      obtain ⟨isOpen, direction⟩ := (context.checkFinalise_eq_ok_iff _ _).mp checked
      cases present : context.session with
      | none =>
          refine .inl ⟨.invalidPhase "finalize_encryption" context.phase.name, rfl, ?_, ?_⟩
          all_goals
            rw [perform, finaliseEncryption, checked, present]
            rfl
      | some session => exact .inr ⟨_, _, _, Accepts.finaliseEncryption isOpen direction present⟩

theorem perform_finaliseDecryption_cases (tag : Bytes) :
    context.Refuses (.finaliseDecryption tag) ∨
      ∃ reply next calls, context.Accepts (.finaliseDecryption tag) reply next calls := by
  cases checked : context.checkFinalise "finalize_decryption" .decrypt with
  | error error =>
      refine .inl ⟨error, context.onlyRefuses_checkFinalise _ _ error checked, ?_, ?_⟩
      all_goals
        rw [perform, finaliseDecryption, checked]
        rfl
  | ok _ =>
      obtain ⟨isOpen, direction⟩ := (context.checkFinalise_eq_ok_iff _ _).mp checked
      cases sized : (context.checkTagLength tag.length).value with
      | error error =>
          refine .inl ⟨error, context.onlyRefuses_checkTagLength _ error sized, ?_, ?_⟩
          all_goals
            rw [perform, finaliseDecryption, checked]
            simp [sized, Outcome.reply, Operation.buffer, Except.map]
      | ok _ =>
          have length := (context.checkTagLength_eq_ok_iff _).mp sized
          cases present : context.session with
          | none =>
              refine .inl ⟨.invalidPhase "finalize_decryption" context.phase.name, rfl, ?_, ?_⟩
              all_goals
                rw [perform, finaliseDecryption, checked]
                simp [sized, present, Outcome.reply, Operation.buffer, Except.map]
          | some session =>
              cases verdict : Tag.verifyBlock (session.tagBlock context.key).value tag with
              | true =>
                  exact .inr ⟨_, _, _, Accepts.verified isOpen direction present length verdict⟩
              | false =>
                  exact .inr ⟨_, _, _, Accepts.failed isOpen direction present length verdict⟩

theorem perform_cases (operation : Operation) :
    context.Refuses operation ∨
      context.Accepts operation (context.perform operation).value.1
        (context.perform operation).value.2 (context.perform operation).calls := by
  have cases : context.Refuses operation ∨
      ∃ reply next calls, context.Accepts operation reply next calls := by
    cases operation with
    | initialise direction iv aad => exact context.perform_initialise_cases direction iv aad
    | update input output => exact context.perform_update_cases input output
    | updateInPlace buffer => exact context.perform_updateInPlace_cases buffer
    | finaliseEncryption => exact context.perform_finaliseEncryption_cases
    | finaliseDecryption tag => exact context.perform_finaliseDecryption_cases tag
  rcases cases with refuses | ⟨reply, next, calls, accepts⟩
  · exact .inl refuses
  · obtain ⟨value, inputs⟩ := accepts.perform_eq
    rw [value, inputs]
    exact .inr accepts

end

end Context

end GaloisCounter
