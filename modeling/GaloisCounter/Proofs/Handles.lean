import GaloisCounter.Handle
import GaloisCounter.Proofs.History

/-!
Calls through handles do what calls on the context behind them do.

Some calls are stopped before they reach the context: by a null pointer, by empty input, by an
update against the direction of the message, by output in place that is too short, or by a tag
buffer of the wrong length. `value_perform` says what comes of every call. A run of calls through
a handle is then the run of those that reach the context.
-/

namespace GaloisCounter.Handle

/-! ## Calls -/

def Argument.bytes? (argument : Argument) : Option Bytes :=
  if argument.length = 0 then none else argument.pointer.map (·.take argument.length)

def Argument.Valid (argument : Argument) : Prop :=
  ∀ bytes, argument.pointer = some bytes → argument.length ≤ bytes.length

theorem Argument.pointer_of_bytes? {argument : Argument} {bytes : Bytes}
    (present : argument.bytes? = some bytes) :
    ∃ stored, argument.pointer = some stored ∧ bytes = stored.take argument.length := by
  unfold bytes? at present
  split at present
  · cases present
  · obtain ⟨stored, pointer, taken⟩ := Option.map_eq_some_iff.mp present
    exact ⟨stored, pointer, taken.symm⟩

theorem Argument.read_cases (argument : Argument) (parameter : String) :
    (argument.bytes? = none ∧ ∃ error, error.category = .invalidArgument ∧
      argument.read parameter = .error error) ∨
    ∃ bytes, argument.bytes? = some bytes ∧ argument.read parameter = .ok bytes := by
  rcases argument with ⟨pointer, length⟩
  unfold bytes? read
  dsimp only
  cases pointer with
  | none => exact .inl ⟨by split <;> rfl, .nullPointer parameter, rfl, rfl⟩
  | some bytes =>
      split
      · exact .inl ⟨rfl, .zeroLength parameter, rfl, rfl⟩
      · exact .inr ⟨_, rfl, rfl⟩

def Output.operation? (input : Argument) : Output → Option Operation
  | inPlace length => if input.length ≤ length then input.bytes?.map .updateInPlace else none
  | separate pointer => do
      let buffer ← pointer
      let data ← input.bytes?
      return .update data buffer

inductive Call
  | initialise (direction : Direction) (iv aad : Argument)
  | update (direction : Direction) (input : Argument) (output : Output)
  | finaliseEncryption (tag : Argument)
  | finaliseDecryption (tag : Argument)

namespace Call

def perform {Key : Type} [BlockCipher Key] (handle : Option (Context Key)) :
    Call → Traced (Response Key)
  | initialise direction iv aad => Handle.initialise handle direction iv aad
  | update direction input output => Handle.update handle direction input output
  | finaliseEncryption tag => Handle.finaliseEncryption handle tag
  | finaliseDecryption tag => Handle.finaliseDecryption handle tag

def buffer : Call → Option Bytes
  | update _ input output => output.pointer input
  | finaliseEncryption tag => tag.pointer
  | _ => none

def operation? {Key : Type} (context : Context Key) : Call → Option Operation
  | initialise direction iv aad => do
      let iv ← iv.bytes?
      let aad ← aad.bytes?
      return .initialise direction iv aad
  | update direction input output =>
      if context.direction = some direction then output.operation? input else none
  | finaliseEncryption tag =>
      if tag.pointer.isSome ∧ tag.length = context.config.tagLength.bytes then
        some .finaliseEncryption
      else
        none
  | finaliseDecryption tag => tag.bytes?.map .finaliseDecryption

/-- The operations that calls reach the context with. -/
inductive Reaches {Key : Type} (context : Context Key) : Call → Operation → Prop
  | initialise {direction : Direction} {iv aad : Argument} {ivBytes aadBytes : Bytes} :
      Reaches context (.initialise direction iv aad) (.initialise direction ivBytes aadBytes)
  | updateInPlace {direction : Direction} {bytes : Bytes} {count length : Nat} :
      Reaches context (.update direction ⟨some bytes, count⟩ (.inPlace length))
        (.updateInPlace (bytes.take count))
  | update {direction : Direction} {bytes buffer : Bytes} {count : Nat} :
      Reaches context (.update direction ⟨some bytes, count⟩ (.separate (some buffer)))
        (.update (bytes.take count) buffer)
  | finaliseEncryption {bytes : Bytes} :
      Reaches context (.finaliseEncryption ⟨some bytes, context.config.tagLength.bytes⟩)
        .finaliseEncryption
  | finaliseDecryption {tag : Argument} {received : Bytes} :
      Reaches context (.finaliseDecryption tag) (.finaliseDecryption received)

theorem reaches_of_passes {Key : Type} {context : Context Key} {call : Call}
    {operation : Operation} (passes : call.operation? context = some operation) :
    call.Reaches context operation := by
  cases call with
  | initialise direction iv aad =>
      simp only [operation?, bind, Option.bind_eq_some_iff] at passes
      obtain ⟨ivBytes, _, aadBytes, _, same⟩ := passes
      cases same
      exact .initialise
  | update direction input output =>
      rcases input with ⟨pointer, count⟩
      rw [operation?] at passes
      split at passes
      · cases output with
        | inPlace length =>
            rw [Output.operation?] at passes
            split at passes
            · obtain ⟨data, present, rfl⟩ := Option.map_eq_some_iff.mp passes
              obtain ⟨bytes, rfl, rfl⟩ := Argument.pointer_of_bytes? present
              exact .updateInPlace
            · cases passes
        | separate pointer =>
            simp only [Output.operation?, bind, Option.bind_eq_some_iff] at passes
            obtain ⟨buffer, rfl, data, present, same⟩ := passes
            obtain ⟨bytes, rfl, rfl⟩ := Argument.pointer_of_bytes? present
            cases same
            exact .update
      · cases passes
  | finaliseEncryption tag =>
      rcases tag with ⟨_ | bytes, count⟩
      · cases passes
      · rw [operation?] at passes
        split at passes
        · next accepted =>
          cases passes
          cases accepted.2
          exact .finaliseEncryption
        · cases passes
  | finaliseDecryption tag =>
      obtain ⟨received, _, rfl⟩ := Option.map_eq_some_iff.mp passes
      exact .finaliseDecryption

theorem operation?_of_unreached {Key : Type} {context : Context Key} {direction : Direction}
    {bytes : Bytes} {count : Nat} (unreached : ¬(context.direction = some direction ∧ count ≠ 0))
    (output : Output) :
    (update direction ⟨some bytes, count⟩ output).operation? context = none := by
  rw [operation?]
  split
  · next same =>
    have empty : count = 0 := by_contra fun some => unreached ⟨same, some⟩
    have absent : Argument.bytes? ⟨some bytes, count⟩ = none := if_pos empty
    cases output with
    | inPlace length => rw [Output.operation?, absent, Option.map_none, ite_self]
    | separate pointer =>
        rw [Output.operation?, absent]
        cases pointer <;> rfl
  · rfl

def after (call : Call) (reply : Reply) : Option Bytes :=
  match call, reply.answer with
  | update _ input (.inPlace _), _ =>
      input.pointer.map fun bytes => reply.buffer ++ bytes.drop input.length
  | update _ _ (.separate pointer), _ => pointer.map fun _ => reply.buffer
  | finaliseEncryption tag, .ok (.sealed sealed) =>
      tag.pointer.map fun bytes => sealed.bytes ++ bytes.drop tag.length
  | finaliseEncryption tag, _ => tag.pointer
  | _, _ => none

end Call

namespace Status

def ofResult {Result : Type} : Except Error Result → Status
  | .ok _ => success
  | .error error => if error.isAuthenticationFailure then authenticationFailure else failure

theorem value_ofAnswer {Result : Type} (call : String) (answer : Except Error Result) :
    (ofAnswer call answer).value = ofResult answer := by
  cases answer with
  | ok value => rfl
  | error error =>
      unfold ofAnswer ofResult
      dsimp only
      split <;> rfl

theorem ofResult_error {Result : Type} (error : Error) :
    ofResult (.error error : Except Error Result) =
      if error.category = .authenticationFailure then authenticationFailure else failure := by
  cases category : error.category <;>
    simp [ofResult, Error.isAuthenticationFailure, category]

theorem ofResult_eq_success_iff {Result : Type} (answer : Except Error Result) :
    ofResult answer = success ↔ answer.isOk := by
  cases answer with
  | ok value => exact iff_of_true rfl rfl
  | error error =>
      rw [ofResult_error]
      refine iff_of_false ?_ nofun
      split <;> nofun

theorem ofResult_eq_failure_iff {Result : Type} (answer : Except Error Result) :
    ofResult answer = failure ↔ Rejected answer := by
  cases answer with
  | ok value => exact iff_of_false nofun nofun
  | error error =>
      rw [ofResult_error]
      cases category : error.category <;> simp [Rejected, category]

theorem ofResult_eq_authenticationFailure_iff {Result : Type} (answer : Except Error Result) :
    ofResult answer = authenticationFailure ↔
      ∃ error, answer = .error error ∧ error.category = .authenticationFailure := by
  cases answer with
  | ok value => exact iff_of_false nofun nofun
  | error error =>
      rw [ofResult_error]
      cases category : error.category <;> simp [category]

theorem code_eq_one_iff (status : Status) : status.code = 1 ↔ status = success := by
  cases status <;> decide

theorem code_eq_zero_iff (status : Status) : status.code = 0 ↔ status = failure := by
  cases status <;> decide

theorem code_eq_neg_one_iff (status : Status) :
    status.code = -1 ↔ status = authenticationFailure := by
  cases status <;> decide

theorem ofResult_map {Result Other : Type} (transform : Result → Other)
    (answer : Except Error Result) : ofResult (answer.map transform) = ofResult answer := by
  cases answer <;> rfl

end Status

namespace Response

variable {Key Result : Type}

theorem value_rejected (call : String) (handle : Option (Context Key)) (buffer : Option Bytes)
    {error : Error} (category : error.category = .invalidArgument) :
    (rejected call handle buffer error).value = { status := .failure, handle, buffer } := by
  have status := Status.value_ofAnswer call (.error error : Except Error Unit)
  have refused : error.isAuthenticationFailure = false := by
    rw [Error.isAuthenticationFailure, category]
    rfl
  rw [Status.ofResult, refused] at status
  rw [rejected, Traced.value_bind, status]
  rfl

theorem value_settled (call : String) (outcome : Outcome Key Result) (buffer : Option Bytes) :
    (settled call outcome buffer).value =
      { status := Status.ofResult outcome.answer, handle := some outcome.context, buffer } := by
  rw [settled, Traced.value_bind, Status.value_ofAnswer]
  rfl

end Response

theorem value_newContext {Key : Type} (schedule : Key) (tagLength : TagLength) :
    (newContext (some schedule) tagLength.bytes).value =
      some (Context.new schedule { tagLength }) := by
  unfold newContext
  dsimp only
  rw [Traced.value_bind, TagLength.value_ofBytes, dif_pos ⟨tagLength.atLeast, tagLength.atMost⟩]
  rfl

/-! ## What comes of a call -/

variable {Key : Type} [BlockCipher Key]

/-- A call is stopped without effect, or the context is called and its reply passed on. -/
def Call.response (call : Call) (context : Context Key) : Response Key :=
  match call.operation? context with
  | none => { status := .failure, handle := some context, buffer := call.buffer }
  | some operation =>
      let (reply, next) := (context.perform operation).value
      { status := Status.ofResult reply.answer, handle := some next, buffer := call.after reply }

section

variable {context : Context Key} {call : Call}

theorem response_of_stopped (stops : call.operation? context = none) :
    call.response context =
      { status := .failure, handle := some context, buffer := call.buffer } := by
  rw [Call.response, stops]

theorem response_of_passed {operation : Operation}
    (passes : call.operation? context = some operation) :
    call.response context =
      { status := Status.ofResult (context.perform operation).value.1.answer
        handle := some (context.perform operation).value.2
        buffer := call.after (context.perform operation).value.1 } := by
  rw [Call.response, passes]

theorem rejected_eq_response (name : String) {error : Error}
    (stops : call.operation? context = none) (category : error.category = .invalidArgument) :
    (Response.rejected name (some context) call.buffer error).value = call.response context := by
  rw [response_of_stopped stops, Response.value_rejected name _ _ category]

theorem settled_eq_response {Result : Type} (name : String) {operation : Operation}
    (passes : call.operation? context = some operation) {outcome : Outcome Key Result}
    {answer : Result → Answer} {buffer : Option Bytes}
    (reply : (context.perform operation).value.1.answer = outcome.answer.map answer)
    (next : (context.perform operation).value.2 = outcome.context)
    (after : call.after (context.perform operation).value.1 = buffer) :
    (Response.settled name outcome buffer).value = call.response context := by
  rw [response_of_passed passes, Response.value_settled, next, after, reply, Status.ofResult_map]

end

section

variable (context : Context Key)

theorem value_initialise (direction : Direction) (iv aad : Argument) :
    (initialise (some context) direction iv aad).value =
      (Call.initialise direction iv aad).response context := by
  have operation : (Call.initialise direction iv aad).operation? context = (do
      let iv ← iv.bytes?
      let aad ← aad.bytes?
      return .initialise direction iv aad) := rfl
  unfold initialise
  dsimp only
  rcases iv.read_cases "iv" with ⟨absent, error, category, rejected⟩ | ⟨ivBytes, present, read⟩
  · rw [absent] at operation
    rw [rejected]
    exact rejected_eq_response _ operation category
  · rw [present] at operation
    rw [read]
    rcases aad.read_cases "aad" with ⟨absent, error, category, rejected⟩ | ⟨aadBytes, present, read⟩
    · rw [absent] at operation
      rw [rejected]
      exact rejected_eq_response _ operation category
    · rw [present] at operation
      rw [read]
      exact settled_eq_response _ operation rfl rfl rfl

theorem value_finaliseDecryption (tag : Argument) :
    (finaliseDecryption (some context) tag).value =
      (Call.finaliseDecryption tag).response context := by
  have operation : (Call.finaliseDecryption tag).operation? context =
      tag.bytes?.map .finaliseDecryption := rfl
  unfold finaliseDecryption
  dsimp only
  rcases tag.read_cases "tag" with ⟨absent, error, category, rejected⟩ | ⟨bytes, present, read⟩
  · rw [absent] at operation
    rw [rejected]
    exact rejected_eq_response _ operation category
  · rw [present] at operation
    rw [read]
    exact settled_eq_response _ operation rfl rfl rfl

theorem value_finaliseEncryption (tag : Argument) :
    (finaliseEncryption (some context) tag).value =
      (Call.finaliseEncryption tag).response context := by
  rcases tag with ⟨pointer, length⟩
  cases pointer with
  | none =>
      have stops : (Call.finaliseEncryption ⟨none, length⟩).operation? context = none := rfl
      exact rejected_eq_response _ stops rfl
  | some buffer =>
      unfold finaliseEncryption
      dsimp only
      by_cases sized : length = context.config.tagLength.bytes
      · have passes : (Call.finaliseEncryption ⟨some buffer, length⟩).operation? context =
            some .finaliseEncryption := by simp [Call.operation?, sized]
        rw [if_neg (not_not.mpr sized), Traced.value_bind]
        refine settled_eq_response _ passes rfl rfl ?_
        change Call.after _ ⟨context.finaliseEncryption.value.answer.map Answer.sealed, []⟩ = _
        cases context.finaliseEncryption.value.answer with
        | error error => rfl
        | ok sealed => rfl
      · have stops : (Call.finaliseEncryption ⟨some buffer, length⟩).operation? context = none := by
          simp [Call.operation?, sized]
        rw [if_pos sized]
        exact rejected_eq_response _ stops rfl

theorem value_updateInPlace (direction : Direction) (input : Argument) (length : Nat) :
    (update (some context) direction input (.inPlace length)).value =
      (Call.update direction input (.inPlace length)).response context := by
  have operation : (Call.update direction input (.inPlace length)).operation? context =
      if context.direction = some direction then
        if input.length ≤ length then input.bytes?.map .updateInPlace else none
      else none := rfl
  rcases input with ⟨_ | buffer, count⟩
  · have absent : Argument.bytes? ⟨none, count⟩ = none := by
      unfold Argument.bytes?
      split <;> rfl
    have stops : (Call.update direction ⟨none, count⟩ (.inPlace length)).operation? context =
        none := by
      rw [operation, absent]
      split
      · split <;> rfl
      · rfl
    exact rejected_eq_response _ stops rfl
  · unfold update
    dsimp only [Output.pointer]
    by_cases same : context.direction = some direction
    · rw [if_pos same] at operation
      rw [if_neg (not_not.mpr same)]
      unfold Argument.bytes? at operation
      dsimp only at operation ⊢
      by_cases empty : count = 0
      · rw [if_pos empty] at operation ⊢
        rw [Option.map_none, ite_self] at operation
        exact rejected_eq_response _ operation rfl
      · rw [if_neg empty] at operation ⊢
        by_cases short : length < count
        · rw [if_neg (by omega)] at operation
          rw [if_pos short]
          exact rejected_eq_response _ operation rfl
        · rw [if_pos (by omega)] at operation
          rw [if_neg short]
          exact settled_eq_response _ operation rfl rfl rfl
    · rw [if_neg same] at operation
      rw [if_pos same]
      exact rejected_eq_response _ operation rfl

theorem value_updateSeparate (direction : Direction) (input : Argument)
    (pointer : Option Bytes) :
    (update (some context) direction input (.separate pointer)).value =
      (Call.update direction input (.separate pointer)).response context := by
  have operation : (Call.update direction input (.separate pointer)).operation? context =
      if context.direction = some direction then (do
        let buffer ← pointer
        let data ← input.bytes?
        return .update data buffer)
      else none := rfl
  cases pointer with
  | none =>
      have stops : (Call.update direction input (.separate none)).operation? context = none := by
        rw [operation]
        split <;> rfl
      exact rejected_eq_response _ stops rfl
  | some buffer =>
      unfold update
      dsimp only [Output.pointer]
      by_cases same : context.direction = some direction
      · rw [if_pos same] at operation
        rw [if_neg (not_not.mpr same)]
        rcases input.read_cases "in" with
          ⟨absent, error, category, rejected⟩ | ⟨data, present, read⟩
        · rw [absent] at operation
          rw [rejected]
          exact rejected_eq_response _ operation category
        · rw [present] at operation
          rw [read]
          exact settled_eq_response _ operation rfl rfl rfl
      · rw [if_neg same] at operation
        rw [if_pos same]
        exact rejected_eq_response _ operation rfl

theorem value_update (direction : Direction) (input : Argument) (output : Output) :
    (update (some context) direction input output).value =
      (Call.update direction input output).response context := by
  cases output with
  | inPlace length => exact value_updateInPlace context direction input length
  | separate pointer => exact value_updateSeparate context direction input pointer

theorem value_perform (call : Call) :
    (call.perform (some context)).value = call.response context := by
  cases call with
  | initialise direction iv aad => exact value_initialise context direction iv aad
  | update direction input output => exact value_update context direction input output
  | finaliseEncryption tag => exact value_finaliseEncryption context tag
  | finaliseDecryption tag => exact value_finaliseDecryption context tag

end

/-! ## Wrong tags -/

/-- A decryption would be completed with a tag of the right length that is not the tag. -/
def Mismatches (context : Context Key) (received : Bytes) : Prop :=
  context.phase.isOpen ∧ context.direction = some .decrypt ∧
    received.length = context.config.tagLength.bytes ∧
    ∃ session, context.session = some session ∧
      received ≠ (Tag.ofBlock (session.tagBlock context.key).value context.config.tagLength).bytes

theorem mismatches_iff (context : Context Key) (operation : Operation) :
    (∃ error, (context.perform operation).value.1.answer = .error error ∧
      error.category = .authenticationFailure) ↔
    ∃ received, operation = .finaliseDecryption received ∧ Mismatches context received := by
  constructor
  · rintro ⟨error, answer, category⟩
    rcases context.perform_cases operation with refuses | accepts
    · rcases refuses.perform_eq answer with ⟨refused, _⟩
      rw [refused] at category
      cases category
    · generalize (context.perform operation).value.1 = reply at accepts answer
      generalize (context.perform operation).value.2 = next at accepts
      generalize (context.perform operation).calls = calls at accepts
      cases accepts with
      | failed isOpen direction present sized verdict =>
          refine ⟨_, rfl, isOpen, direction, sized, _, present, fun same => ?_⟩
          rw [(Tag.verifyBlock_iff _ _ sized).mpr same] at verdict
          cases verdict
      | _ => cases answer
  · rintro ⟨received, rfl, isOpen, direction, sized, session, present, different⟩
    have verdict : Tag.verifyBlock (session.tagBlock context.key).value received = false := by
      rw [Bool.eq_false_iff]
      exact fun same => different ((Tag.verifyBlock_iff _ _ sized).mp same)
    have accepts := Context.Accepts.failed isOpen direction present sized verdict
    rw [accepts.perform_eq.1]
    exact ⟨_, rfl, rfl⟩

/-! ## Buffers -/

namespace Call

def Valid : Call → Prop
  | initialise _ iv aad => iv.Valid ∧ aad.Valid
  | update _ input _ => input.Valid
  | finaliseEncryption tag => tag.Valid
  | finaliseDecryption tag => tag.Valid

def count : Call → Nat
  | update _ input _ => input.length
  | finaliseEncryption tag => tag.length
  | _ => 0

def written (call : Call) (reply : Reply) : Bytes :=
  match call, reply.answer with
  | update _ input _, _ => reply.buffer.take input.length
  | finaliseEncryption _, .ok (.sealed sealed) => sealed.bytes
  | _, _ => []

variable {context : Context Key} {call : Call} {operation : Operation}

theorem after_of_rejected (reaches : call.Reaches context operation)
    (rejected : Rejected (context.perform operation).value.1.answer) :
    call.after (context.perform operation).value.1 = call.buffer := by
  obtain ⟨error, category, value, _⟩ := Context.refuses_of_rejected rejected
  rw [value]
  cases reaches with
  | @updateInPlace direction bytes count length =>
      exact congrArg some (List.take_append_drop count bytes)
  | _ => rfl

theorem after_of_isOk (reaches : call.Reaches context operation) (valid : call.Valid)
    (accepted : (context.perform operation).value.1.answer.isOk) :
    let written := call.written (context.perform operation).value.1
    written.length = call.count ∧
      call.after (context.perform operation).value.1 =
        call.buffer.map (fun buffer => written ++ buffer.drop call.count) ∧
      ∀ buffer, call.buffer = some buffer → call.count ≤ buffer.length := by
  have accepts := Context.accepts_of_not_rejected (not_rejected_of_isOk accepted)
  generalize (context.perform operation).value.1 = reply at accepts accepted
  generalize (context.perform operation).value.2 = next at accepts
  generalize (context.perform operation).calls = calls at accepts
  cases reaches with
  | initialise => exact ⟨rfl, rfl, nofun⟩
  | @updateInPlace direction bytes count length =>
      have within : count ≤ bytes.length := valid bytes rfl
      have taken : (bytes.take count).length = count := List.length_take_of_le within
      cases accepts with
      | updateInPlace checked =>
          have length := (context.length_process (bytes.take count)).trans taken
          generalize (context.process (bytes.take count)).value.2 = output at length
          have whole : output.take count = output := List.take_of_length_le (Nat.le_of_eq length)
          refine ⟨?_, ?_, ?_⟩
          · exact (congrArg List.length whole).trans length
          · exact congrArg (fun written => some (written ++ bytes.drop count)) whole.symm
          · rintro _ ⟨⟩
            exact within
  | @update direction bytes buffer count =>
      have within : count ≤ bytes.length := valid bytes rfl
      have taken : (bytes.take count).length = count := List.length_take_of_le within
      cases accepts with
      | update fits checked =>
          rw [taken] at fits
          have length := (context.length_process (bytes.take count)).trans taken
          generalize (context.process (bytes.take count)).value.2 = output at length
          have front : (output ++ buffer.drop (bytes.take count).length).take count = output :=
            List.take_left' length
          refine ⟨?_, ?_, ?_⟩
          · exact (congrArg List.length front).trans length
          · change some (output ++ buffer.drop (bytes.take count).length) =
              some (List.take count _ ++ buffer.drop count)
            rw [front, taken]
          · rintro _ ⟨⟩
            exact fits
  | @finaliseEncryption bytes =>
      have within : context.config.tagLength.bytes ≤ bytes.length := valid bytes rfl
      cases accepts with
      | finaliseEncryption isOpen direction present =>
          refine ⟨Tag.sized _, rfl, ?_⟩
          rintro _ ⟨⟩
          exact within
  | finaliseDecryption => exact ⟨rfl, rfl, nofun⟩

end Call

/-! ## Updates in place -/

theorem perform_updateInPlace_eq (context : Context Key) {data buffer : Bytes}
    (fits : data.length ≤ buffer.length) :
    let first := (context.perform (.updateInPlace data)).value
    let second := (context.perform (.update data buffer)).value
    Status.ofResult first.1.answer = Status.ofResult second.1.answer ∧ first.2 = second.2 ∧
      (first.1.answer.isOk → first.1.buffer.length = data.length ∧
        second.1.buffer.take data.length = first.1.buffer) := by
  have notShort : ¬buffer.length < data.length := Nat.not_lt.mpr fits
  cases checked : context.checkUpdate data.length with
  | error error =>
      rw [Context.perform, Context.perform, Context.updateInPlace, Context.update, checked,
        if_neg notShort]
      exact ⟨rfl, rfl, fun accepted => absurd accepted Bool.false_ne_true⟩
  | ok _ =>
      rw [(Context.Accepts.updateInPlace checked).perform_eq.1,
        (Context.Accepts.update fits checked).perform_eq.1]
      have length := context.length_process data
      exact ⟨rfl, rfl, fun _ => ⟨length, List.take_left' length⟩⟩

/-- Whether the output is the input or another buffer makes no difference to the status, to the
context and to the bytes that are written. -/
theorem inPlace_eq_separate (context : Context Key) (direction : Direction) {bytes : Bytes}
    {count : Nat} (valid : count ≤ bytes.length) (buffer : Bytes) :
    let first := (update (some context) direction ⟨some bytes, count⟩
      (.inPlace buffer.length)).value
    let second := (update (some context) direction ⟨some bytes, count⟩
      (.separate (some buffer))).value
    first.status = second.status ∧ first.handle = second.handle ∧
      (first.status = .success →
        first.buffer.map (·.take count) = second.buffer.map (·.take count)) := by
  have taken : (bytes.take count).length = count := List.length_take_of_le valid
  rw [value_update, value_update]
  by_cases reached : context.direction = some direction ∧ count ≠ 0
  · have present : Argument.bytes? ⟨some bytes, count⟩ = some (bytes.take count) :=
      if_neg reached.2
    have second : (Call.update direction ⟨some bytes, count⟩ (.separate (some buffer))).operation?
        context = some (.update (bytes.take count) buffer) := by
      rw [Call.operation?, if_pos reached.1, Output.operation?, present]
      rfl
    by_cases fits : count ≤ buffer.length
    · have first : (Call.update direction ⟨some bytes, count⟩ (.inPlace buffer.length)).operation?
          context = some (.updateInPlace (bytes.take count)) := by
        rw [Call.operation?, if_pos reached.1, Output.operation?, if_pos fits, present]
        rfl
      have same := perform_updateInPlace_eq context (Nat.le_trans (Nat.le_of_eq taken) fits)
      rw [taken] at same
      rw [response_of_passed first, response_of_passed second]
      refine ⟨same.1, congrArg some same.2.1, fun success => congrArg some ?_⟩
      rcases same.2.2 ((Status.ofResult_eq_success_iff _).mp success) with ⟨length, written⟩
      exact (List.take_left' length).trans written.symm
    · -- The check in front of the context is the one that the context makes itself.
      have first : (Call.update direction ⟨some bytes, count⟩ (.inPlace buffer.length)).operation?
          context = none := by
        rw [Call.operation?, if_pos reached.1, Output.operation?, if_neg fits]
      have refused : (context.perform (.update (bytes.take count) buffer)).value =
          (⟨.error (.outputTooSmall "output" (bytes.take count).length buffer.length), buffer⟩,
            context) := by
        rw [Context.perform, Context.update, if_pos (by omega)]
        rfl
      rw [response_of_stopped first, response_of_passed second, refused]
      exact ⟨rfl, rfl, fun success => by cases success⟩
  · rw [response_of_stopped (Call.operation?_of_unreached reached _),
      response_of_stopped (Call.operation?_of_unreached reached _)]
    exact ⟨rfl, rfl, fun success => by cases success⟩

/-! ## Runs -/

structure Invocation where
  call : Call
  isNull : Bool := false

namespace Invocation

variable (context : Context Key) (invocation : Invocation)

def response : Response Key :=
  (invocation.call.perform (if invocation.isNull then none else some context)).value

def next : Context Key := (invocation.response context).handle.getD context

def operation? : Option Operation :=
  if invocation.isNull then none else invocation.call.operation? context

end Invocation

def drive (context : Context Key) (invocations : List Invocation) : Context Key :=
  invocations.foldl (fun context invocation => invocation.next context) context

def passed (context : Context Key) : List Invocation → List Operation
  | [] => []
  | invocation :: rest =>
      (invocation.operation? context).toList ++ passed (invocation.next context) rest

theorem value_perform_none (call : Call) :
    (call.perform none).value =
      ({ status := .failure, handle := none, buffer := call.buffer } : Response Key) := by
  cases call with
  | update direction input output => exact Response.value_rejected _ _ _ rfl
  | _ => exact Response.value_rejected _ _ _ rfl

namespace Invocation

variable {context : Context Key} {invocation : Invocation}

theorem response_of_stopped (stops : invocation.operation? context = none) :
    (invocation.response context).status = .failure ∧ invocation.next context = context ∧
      (invocation.response context).buffer = invocation.call.buffer := by
  rcases invocation with ⟨call, _ | _⟩
  · have response : Invocation.response context ⟨call, false⟩ = _ :=
      (value_perform context call).trans (Handle.response_of_stopped stops)
    rw [next, response]
    exact ⟨rfl, rfl, rfl⟩
  · have response : Invocation.response context ⟨call, true⟩ = _ := value_perform_none call
    rw [next, response]
    exact ⟨rfl, rfl, rfl⟩

theorem response_of_passed {operation : Operation}
    (passes : invocation.operation? context = some operation) :
    let result := (context.perform operation).value
    (invocation.response context).status = Status.ofResult result.1.answer ∧
      invocation.next context = result.2 ∧
      (invocation.response context).buffer = invocation.call.after result.1 ∧
      invocation.call.Reaches context operation := by
  rcases invocation with ⟨call, _ | _⟩
  · have response : Invocation.response context ⟨call, false⟩ = _ :=
      (value_perform context call).trans (Handle.response_of_passed passes)
    rw [next, response]
    exact ⟨rfl, rfl, rfl, Call.reaches_of_passes passes⟩
  · cases passes

end Invocation

theorem drive_eq_run (context : Context Key) (invocations : List Invocation) :
    drive context invocations = (context.run (passed context invocations)).value.2 := by
  induction invocations generalizing context with
  | nil => rfl
  | cons invocation rest induction =>
      change drive (invocation.next context) rest = _
      rw [induction, passed]
      cases reached : invocation.operation? context with
      | none =>
          rw [(Invocation.response_of_stopped reached).2.1]
          rfl
      | some operation =>
          rw [(Invocation.response_of_passed reached).2.1]
          rfl

/-- What one invocation gives back, by the operation that reaches the context. -/
structure Faithful (context : Context Key) (invocation : Invocation) : Prop where
  success : (invocation.response context).status.code = 1 ↔
    ∃ operation, invocation.operation? context = some operation ∧
      (context.perform operation).value.1.answer.isOk
  mismatch : (invocation.response context).status.code = -1 ↔
    ∃ received, invocation.operation? context = some (.finaliseDecryption received) ∧
      Mismatches context received
  failure : (invocation.response context).status.code = 0 ↔
    (invocation.response context).status.code ≠ 1 ∧
      (invocation.response context).status.code ≠ -1
  unchanged : (invocation.response context).status.code = 0 →
    invocation.next context = context ∧
      (invocation.response context).buffer = invocation.call.buffer
  /-- After a success the front of the buffer is written, with what the context has replied. -/
  written : (invocation.response context).status.code = 1 → invocation.call.Valid →
    ∃ operation, invocation.operation? context = some operation ∧
      let written := invocation.call.written (context.perform operation).value.1
      written.length = invocation.call.count ∧
        (invocation.response context).buffer = invocation.call.buffer.map
          (fun buffer => written ++ buffer.drop invocation.call.count) ∧
        ∀ buffer, invocation.call.buffer = some buffer → invocation.call.count ≤ buffer.length

theorem faithful (context : Context Key) (invocation : Invocation) :
    Faithful context invocation := by
  cases reached : invocation.operation? context with
  | none =>
      rcases Invocation.response_of_stopped reached with ⟨status, next, buffer⟩
      constructor
      all_goals rw [status]
      · exact iff_of_false (by decide) (by simp [reached])
      · exact iff_of_false (by decide) (by simp [reached])
      · decide
      · exact fun _ => ⟨next, buffer⟩
      · nofun
  | some operation =>
      rcases Invocation.response_of_passed reached with ⟨status, next, buffer, reaches⟩
      constructor
      · rw [Status.code_eq_one_iff, status, Status.ofResult_eq_success_iff, reached]
        simp
      · rw [Status.code_eq_neg_one_iff, status, Status.ofResult_eq_authenticationFailure_iff,
          mismatches_iff, reached]
        simp
      · rw [status]
        cases Status.ofResult (context.perform operation).value.1.answer <;> decide
      · rw [Status.code_eq_zero_iff, status, Status.ofResult_eq_failure_iff]
        intro rejected
        exact ⟨next.trans (Context.refuses_of_rejected rejected).next_eq,
          buffer.trans (Call.after_of_rejected reaches rejected)⟩
      · rw [Status.code_eq_one_iff, status, Status.ofResult_eq_success_iff, buffer]
        exact fun accepted valid =>
          ⟨operation, reached, Call.after_of_isOk reaches valid accepted⟩

/-- A new handle stands for a new context, and whatever is called then, with null pointers or with
buffers, comes to the context that the operations lead to which pass the checks in front of it.
Statuses and buffers tell at every point what that context has replied, and an update in place is
an update. -/
theorem refines_context {Key : Type} [BlockCipher Key] (schedule : Key) (tagLength : TagLength) :
    (newContext (some schedule) tagLength.bytes).value =
        some (Context.new schedule { tagLength }) ∧
    ∀ invocations : List Invocation,
      let start := Context.new schedule { tagLength }
      let context := drive start invocations
      context = (start.run (passed start invocations)).value.2 ∧
      (∀ invocation, Faithful context invocation) ∧
      ∀ (direction : Direction) (bytes buffer : Bytes) (count : Nat), count ≤ bytes.length →
        let first := (update (some context) direction ⟨some bytes, count⟩
          (.inPlace buffer.length)).value
        let second := (update (some context) direction ⟨some bytes, count⟩
          (.separate (some buffer))).value
        first.status = second.status ∧ first.handle = second.handle ∧
          (first.status = .success →
            first.buffer.map (·.take count) = second.buffer.map (·.take count)) := by
  refine ⟨value_newContext schedule tagLength,
    fun invocations => ⟨drive_eq_run _ invocations, faithful _, ?_⟩⟩
  intro direction bytes buffer count valid
  exact inPlace_eq_separate _ direction valid buffer

theorem refines_context_sealing :
    let start : Context (Block → Block) := Context.new id {}
    let invocations : List Invocation :=
      [⟨.initialise .encrypt ⟨some [1], 1⟩ ⟨some [2], 1⟩, false⟩,
        ⟨.update .decrypt ⟨some [3], 1⟩ (.separate (some [4])), false⟩,
        ⟨.update .encrypt ⟨some [5, 6, 7], 2⟩ (.inPlace 3), false⟩]
    let operations : List Operation := [.initialise .encrypt [1] [2], .updateInPlace [5, 6]]
    let sealing : Invocation := ⟨.finaliseEncryption ⟨some (List.replicate 18 8), 16⟩, false⟩
    let context := drive start invocations
    passed start invocations = operations ∧ context = (start.run operations).value.2 ∧
      (sealing.response context).status.code = 1 ∧
      ∃ written, written.length = 16 ∧
        (sealing.response context).buffer = some (written ++ [8, 8]) := by
  intro start invocations operations sealing context
  have new : start = Context.new id { tagLength := .full } := rfl
  obtain ⟨run, faithful, _⟩ := (refines_context (id : Block → Block) .full).2 invocations
  have passes : passed start invocations = operations := by decide +kernel
  rw [← new, passes] at run
  have success : (sealing.response context).status.code = 1 := by decide +kernel
  have valid : sealing.call.Valid := by
    rintro _ ⟨⟩
    decide
  obtain ⟨operation, _, sized, buffer, _⟩ := (faithful sealing).written success valid
  exact ⟨passes, run, success, _, sized, buffer⟩

end GaloisCounter.Handle
