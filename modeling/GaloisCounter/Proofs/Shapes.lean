import GaloisCounter.Aes.KeySchedule
import GaloisCounter.Proofs.Comparison
import Mathlib.Logic.Function.Basic

/-!
What runs reveal.

Errors, logs and descriptions tell how long texts are and how far a message has come, and whether a
tag was right. Two runs that differ only in the keys and in the content of the texts, and that come
to the same verdicts, look the same at every step.
-/

namespace GaloisCounter

theorem Bytes.related_of_length {first second : Bytes} (length : first.length = second.length) :
    List.Forall₂ (fun _ _ => True) first second :=
  List.forall₂_iff_get.mpr ⟨length, fun _ _ _ => trivial⟩

/-- Equal lengths are all that is known of two texts, and equal counts of two sessions. -/
def Comparison.shapes (Key Other : Type) [BlockCipher Key] [BlockCipher Other] :
    Comparison Key Other where
  bytes _ _ := True
  keys _ _ := True
  configs := Eq
  sessions first second :=
    first.aadLength = second.aadLength ∧ first.textLength = second.textLength
  settings := Config.eq_with_backend
  aadLength related := related.1
  textLength related := related.2
  start _ _ _ aads := ⟨congrArg UInt64.ofNat aads.length_eq, rfl⟩
  process := by
    intro key otherKey session otherSession data otherData direction _ related texts
    have length : data.length = otherData.length := texts.length_eq
    have passes := session.passes_processParts key direction data
    have otherPasses := otherSession.passes_processParts otherKey direction otherData
    rw [Session.process_eq, Session.process_eq]
    refine ⟨⟨?_, ?_⟩, Bytes.related_of_length ?_⟩
    · exact passes.aadLength.trans (related.1.trans otherPasses.aadLength.symm)
    · change _ + UInt64.ofNat data.length = _ + UInt64.ofNat otherData.length
      rw [length, passes.textLength, otherPasses.textLength, related.2]
    · exact passes.output.trans (length.trans otherPasses.output.symm)
  tagBlock _ _ := Bytes.related_of_length (by rw [Block.length_toList, Block.length_toList])

/-! ## Actions -/

abbrev Pool (Key : Type) := Nat → Option (Context Key)

def Answer.count : Answer → Nat
  | .done => 0
  | .written count => count
  | .sealed tag => tag.bytes.length

/-- A call under an unused name has no effect. -/
def Pool.call {Key : Type} [BlockCipher Key] (pool : Pool Key) (name : Nat)
    (operation : Operation) : Traced (Except Error Nat × Pool Key) :=
  match pool name with
  | none => return (.ok 0, pool)
  | some context => do
      let (reply, next) ← context.perform operation
      return (reply.answer.map Answer.count, Function.update pool name (some next))

inductive Action (Key : Type)
  | create (name : Nat) (key : Key) (config : Config)
  | copy (name source : Nat)
  | start (name : Nat) (gcm : Gcm Key) (direction : Direction) (iv aad : Bytes)
  | call (name : Nat) (operation : Operation)
  | encryptDetached (gcm : Gcm Key) (iv aad text : Bytes)
  | encrypt (gcm : Gcm Key) (iv aad text : Bytes)
  | decryptDetached (gcm : Gcm Key) (iv aad ciphertext tag : Bytes)
  | decrypt (gcm : Gcm Key) (iv aad sealed : Bytes)

namespace Action

variable {Key : Type}

def judges : Action Key → Bool
  | call _ operation => operation.judges
  | decryptDetached .. => true
  | decrypt .. => true
  | _ => false

def perform [BlockCipher Key] (pool : Pool Key) :
    Action Key → Traced (Except Error Nat × Pool Key)
  | create name key config =>
      return (.ok 0, Function.update pool name (some (Context.new key config)))
  | copy name source =>
      return (.ok 0, Function.update pool name ((pool source).map Context.copy))
  | start name gcm direction iv aad => do
      match ← gcm.started direction iv aad with
      | .error error => return (.error error, pool)
      | .ok context => return (.ok 0, Function.update pool name (some context))
  | call name operation => pool.call name operation
  | encryptDetached gcm iv aad text => do
      let answer ← gcm.encryptDetached iv aad text
      return (answer.map fun (ciphertext, tag) => ciphertext.length + tag.bytes.length, pool)
  | encrypt gcm iv aad text => do
      let answer ← gcm.encrypt iv aad text
      return (answer.map List.length, pool)
  | decryptDetached gcm iv aad ciphertext tag => do
      let answer ← gcm.decryptDetached iv aad ciphertext tag
      return (answer.map List.length, pool)
  | decrypt gcm iv aad sealed => do
      let answer ← gcm.decrypt iv aad sealed
      return (answer.map List.length, pool)

end Action

inductive Operation.SameShape : Operation → Operation → Prop
  | initialise (direction : Direction) {iv aad otherIv otherAad : Bytes}
      (ivs : iv.length = otherIv.length) (aads : aad.length = otherAad.length) :
      SameShape (.initialise direction iv aad) (.initialise direction otherIv otherAad)
  | update {input output otherInput otherOutput : Bytes}
      (inputs : input.length = otherInput.length) (outputs : output.length = otherOutput.length) :
      SameShape (.update input output) (.update otherInput otherOutput)
  | updateInPlace {buffer otherBuffer : Bytes} (buffers : buffer.length = otherBuffer.length) :
      SameShape (.updateInPlace buffer) (.updateInPlace otherBuffer)
  | finaliseEncryption : SameShape .finaliseEncryption .finaliseEncryption
  | finaliseDecryption {tag otherTag : Bytes} (tags : tag.length = otherTag.length) :
      SameShape (.finaliseDecryption tag) (.finaliseDecryption otherTag)

inductive Action.SameShape {Key Other : Type} : Action Key → Action Other → Prop
  | create (name : Nat) (key : Key) (otherKey : Other) (config : Config) :
      SameShape (.create name key config) (.create name otherKey config)
  | copy (name source : Nat) : SameShape (.copy name source) (.copy name source)
  | start (name : Nat) (key : Key) (otherKey : Other) (config : Config) (direction : Direction)
      {iv aad otherIv otherAad : Bytes} (ivs : iv.length = otherIv.length)
      (aads : aad.length = otherAad.length) :
      SameShape (.start name ⟨key, config⟩ direction iv aad)
        (.start name ⟨otherKey, config⟩ direction otherIv otherAad)
  | call (name : Nat) {operation otherOperation : Operation}
      (operations : operation.SameShape otherOperation) :
      SameShape (.call name operation) (.call name otherOperation)
  | encryptDetached (key : Key) (otherKey : Other) (config : Config)
      {iv aad text otherIv otherAad otherText : Bytes} (ivs : iv.length = otherIv.length)
      (aads : aad.length = otherAad.length) (texts : text.length = otherText.length) :
      SameShape (.encryptDetached ⟨key, config⟩ iv aad text)
        (.encryptDetached ⟨otherKey, config⟩ otherIv otherAad otherText)
  | encrypt (key : Key) (otherKey : Other) (config : Config)
      {iv aad text otherIv otherAad otherText : Bytes} (ivs : iv.length = otherIv.length)
      (aads : aad.length = otherAad.length) (texts : text.length = otherText.length) :
      SameShape (.encrypt ⟨key, config⟩ iv aad text)
        (.encrypt ⟨otherKey, config⟩ otherIv otherAad otherText)
  | decryptDetached (key : Key) (otherKey : Other) (config : Config)
      {iv aad ciphertext tag otherIv otherAad otherCiphertext otherTag : Bytes}
      (ivs : iv.length = otherIv.length) (aads : aad.length = otherAad.length)
      (ciphertexts : ciphertext.length = otherCiphertext.length)
      (tags : tag.length = otherTag.length) :
      SameShape (.decryptDetached ⟨key, config⟩ iv aad ciphertext tag)
        (.decryptDetached ⟨otherKey, config⟩ otherIv otherAad otherCiphertext otherTag)
  | decrypt (key : Key) (otherKey : Other) (config : Config)
      {iv aad sealed otherIv otherAad otherSealed : Bytes} (ivs : iv.length = otherIv.length)
      (aads : aad.length = otherAad.length) (texts : sealed.length = otherSealed.length) :
      SameShape (.decrypt ⟨key, config⟩ iv aad sealed)
        (.decrypt ⟨otherKey, config⟩ otherIv otherAad otherSealed)

/-! ## Observations -/

structure View where
  phase : Phase
  direction : Option Direction
  aadLength : UInt64
  processedLength : UInt64
  description : String
  deriving DecidableEq

def Context.view {Key : Type} (context : Context Key) : View where
  phase := context.phase
  direction := context.direction
  aadLength := context.aadLength
  processedLength := context.processedLength
  description := context.description

structure Observation where
  answer : Except Error Nat
  log : List String
  views : Nat → Option View

namespace Pool

variable {Key : Type} [BlockCipher Key]

def empty : Pool Key := fun _ => none

def observe (pool : Pool Key) : List (Action Key) → List Observation
  | [] => []
  | action :: rest =>
      let step := action.perform pool
      { answer := step.value.1
        log := step.events.map Event.line
        views := fun name => (step.value.2 name).map Context.view } :: step.value.2.observe rest

/-- The verdicts on the tags that were not rejected unjudged, in order. -/
def verdicts (pool : Pool Key) : List (Action Key) → List Bool
  | [] => []
  | action :: rest =>
      let step := (action.perform pool).value
      if action.judges ∧ ¬Rejected step.1 then
        step.1.isOk :: step.2.verdicts rest
      else
        step.2.verdicts rest

end Pool

/-! ## Two runs -/

theorem Operation.SameShape.judges_eq {operation other : Operation}
    (shape : operation.SameShape other) : operation.judges = other.judges := by
  cases shape <;> rfl

theorem Action.SameShape.judges_eq {Key Other : Type} {action : Action Key} {other : Action Other}
    (shape : action.SameShape other) : action.judges = other.judges := by
  cases shape with
  | call name operations => exact operations.judges_eq
  | _ => rfl

theorem Context.map_copy {Key : Type} (context : Option (Context Key)) :
    context.map Context.copy = context := by
  cases context <;> rfl

section

variable {Key Other : Type} [BlockCipher Key] [BlockCipher Other]

theorem Operation.SameShape.related {operation other : Operation}
    (shape : operation.SameShape other) :
    (Comparison.shapes Key Other).Operations operation other := by
  cases shape with
  | initialise direction ivs aads =>
      exact .initialise direction (Bytes.related_of_length ivs) (Bytes.related_of_length aads)
  | update inputs outputs =>
      exact .update (Bytes.related_of_length inputs) (Bytes.related_of_length outputs)
  | updateInPlace buffers => exact .updateInPlace (Bytes.related_of_length buffers)
  | finaliseEncryption => exact .finaliseEncryption
  | finaliseDecryption tags => exact .finaliseDecryption (Bytes.related_of_length tags)

theorem Comparison.Answers.count_eq {comparison : Comparison Key Other} {answer other : Answer}
    (answers : comparison.Answers answer other) : answer.count = other.count := by
  cases answers with
  | done => rfl
  | written count => rfl
  | sealed tags => exact tags.bytes.length_eq

theorem Context.view_eq_of_shapes {first : Context Key} {second : Context Other}
    (contexts : (Comparison.shapes Key Other).Contexts first second) :
    first.view = second.view := by
  have configs : first.config = second.config := contexts.configs
  rw [view, view, description, description, configs, contexts.phase, contexts.direction,
    contexts.aadLength, contexts.processedLength]

namespace Pool

def SameShape (pool : Pool Key) (other : Pool Other) : Prop :=
  ∀ name, Option.Rel (Comparison.shapes Key Other).Contexts (pool name) (other name)

theorem sameShape_empty : SameShape (empty : Pool Key) (empty : Pool Other) :=
  fun _ => .none

theorem SameShape.update {pool : Pool Key} {other : Pool Other} (pools : pool.SameShape other)
    (name : Nat) {context : Option (Context Key)} {otherContext : Option (Context Other)}
    (contexts : Option.Rel (Comparison.shapes Key Other).Contexts context otherContext) :
    SameShape (Function.update pool name context) (Function.update other name otherContext) := by
  intro asked
  by_cases same : asked = name
  · subst same
    rw [Function.update_self, Function.update_self]
    exact contexts
  · rw [Function.update_of_ne same, Function.update_of_ne same]
    exact pools asked

theorem SameShape.views_eq {pool : Pool Key} {other : Pool Other} (pools : pool.SameShape other) :
    (fun name => (pool name).map Context.view) = fun name => (other name).map Context.view := by
  funext name
  exact map_eq_of_rel (pools name) Context.view_eq_of_shapes

end Pool

structure SameStep (first : Except Error Nat × Pool Key) (second : Except Error Nat × Pool Other) :
    Prop where
  answer : ResultsAlike Eq first.1 second.1
  pools : first.2.SameShape second.2

theorem Comparison.gcms_of_shapes (key : Key) (otherKey : Other) (config : Config) :
    (shapes Key Other).Gcms ⟨key, config⟩ ⟨otherKey, config⟩ :=
  ⟨trivial, rfl⟩

theorem Pool.sameStep_call {pool : Pool Key} {otherPool : Pool Other}
    (pools : pool.SameShape otherPool) (name : Nat) {operation other : Operation}
    (shape : operation.SameShape other)
    (verdict : operation.judges → SameVerdict (pool.call name operation).value.1
      (otherPool.call name other).value.1) :
    Traced.Alike SameStep (pool.call name operation) (otherPool.call name other) := by
  have contexts := pools name
  unfold Pool.call at verdict ⊢
  generalize pool name = context at contexts verdict ⊢
  generalize otherPool name = otherContext at contexts verdict ⊢
  cases contexts with
  | none => exact .pure ⟨.ok rfl, pools⟩
  | some contexts =>
      have judged (judges : operation.judges) :=
        (sameVerdict_map_iff Answer.count Answer.count).mp (verdict judges)
      refine (Comparison.perform contexts shape.related judged).bind fun _ _ performances => ?_
      exact .pure ⟨performances.replies.answer.map Comparison.Answers.count_eq,
        pools.update name (.some performances.contexts)⟩

theorem Action.sameStep_perform {pool : Pool Key} {otherPool : Pool Other}
    (pools : pool.SameShape otherPool) {action : Action Key} {other : Action Other}
    (shape : action.SameShape other)
    (verdict : action.judges → SameVerdict (action.perform pool).value.1
      (other.perform otherPool).value.1) :
    Traced.Alike SameStep (action.perform pool) (other.perform otherPool) := by
  have related {text otherText : Bytes} (length : text.length = otherText.length) :
      (Comparison.shapes Key Other).Texts text otherText := Bytes.related_of_length length
  cases shape with
  | create name key otherKey config =>
      exact .pure ⟨.ok rfl, pools.update name (.some (.new trivial rfl))⟩
  | copy name source =>
      refine .pure ⟨.ok rfl, pools.update name ?_⟩
      rw [Context.map_copy, Context.map_copy]
      exact pools source
  | start name key otherKey config direction ivs aads =>
      have gcms := Comparison.gcms_of_shapes key otherKey config
      refine (Comparison.started gcms (related ivs) (related aads) direction).bind ?_
      rintro _ _ (error | contexts)
      · exact .pure ⟨.error error, pools⟩
      · exact .pure ⟨.ok rfl, pools.update name (.some contexts)⟩
  | call name operations => exact Pool.sameStep_call pools name operations verdict
  | encryptDetached key otherKey config ivs aads texts =>
      have gcms := Comparison.gcms_of_shapes key otherKey config
      refine (Comparison.encryptDetached gcms (related ivs) (related aads) (related texts)).bind
        fun _ _ results => .pure ⟨results.map ?_, pools⟩
      rintro ⟨ciphertext, tag⟩ ⟨otherCiphertext, otherTag⟩ ⟨ciphertexts, tags⟩
      exact congrArg₂ (· + ·) ciphertexts.length_eq tags.bytes.length_eq
  | encrypt key otherKey config ivs aads texts =>
      have gcms := Comparison.gcms_of_shapes key otherKey config
      exact (Comparison.encrypt gcms (related ivs) (related aads) (related texts)).bind
        fun _ _ results => .pure ⟨results.map List.Forall₂.length_eq, pools⟩
  | decryptDetached key otherKey config ivs aads ciphertexts tags =>
      have gcms := Comparison.gcms_of_shapes key otherKey config
      have judged := (sameVerdict_map_iff _ _).mp (verdict rfl)
      exact (Comparison.decryptDetached gcms (related ivs) (related aads) (related ciphertexts)
        (related tags) judged).bind
          fun _ _ results => .pure ⟨results.map List.Forall₂.length_eq, pools⟩
  | decrypt key otherKey config ivs aads texts =>
      have gcms := Comparison.gcms_of_shapes key otherKey config
      have judged := (sameVerdict_map_iff _ _).mp (verdict rfl)
      exact (Comparison.decrypt gcms (related ivs) (related aads) (related texts) judged).bind
        fun _ _ results => .pure ⟨results.map List.Forall₂.length_eq, pools⟩

namespace Pool

variable {pool : Pool Key} {otherPool : Pool Other}

theorem verdicts_cons (pools : pool.SameShape otherPool) {action : Action Key}
    {other : Action Other} (shape : action.SameShape other) {rest : List (Action Key)}
    {otherRest : List (Action Other)}
    (verdicts : pool.verdicts (action :: rest) = otherPool.verdicts (other :: otherRest)) :
    (action.judges → SameVerdict (action.perform pool).value.1 (other.perform otherPool).value.1) ∧
      (action.perform pool).value.2.verdicts rest =
        (other.perform otherPool).value.2.verdicts otherRest := by
  have step := Action.sameStep_perform pools shape
  have rejected := ResultsAlike.rejected_iff_of_verdict fun verdict =>
    (step fun _ => verdict).value.answer
  have judges : (action.judges ∧ ¬Rejected (action.perform pool).value.1) ↔
      (other.judges ∧ ¬Rejected (other.perform otherPool).value.1) := by
    rw [shape.judges_eq, rejected]
  unfold Pool.verdicts at verdicts
  dsimp only at verdicts
  by_cases judged : action.judges ∧ ¬Rejected (action.perform pool).value.1
  · rw [if_pos judged, if_pos (judges.mp judged)] at verdicts
    rcases List.cons.inj verdicts with ⟨same, later⟩
    exact ⟨fun _ _ _ => same, later⟩
  · rw [if_neg judged, if_neg (judges.not.mp judged)] at verdicts
    exact ⟨fun judges accepted => absurd ⟨judges, accepted⟩ judged, verdicts⟩

theorem observe_eq (pools : pool.SameShape otherPool) {first : List (Action Key)}
    {second : List (Action Other)} (shapes : List.Forall₂ Action.SameShape first second)
    (verdicts : pool.verdicts first = otherPool.verdicts second) :
    pool.observe first = otherPool.observe second := by
  induction shapes generalizing pool otherPool with
  | nil => rfl
  | cons shape shapes induction =>
      rcases verdicts_cons pools shape verdicts with ⟨verdict, later⟩
      have step := Action.sameStep_perform pools shape verdict
      have rest := induction step.value.pools later
      rw [observe, observe, step.value.answer.eq, step.events, step.value.pools.views_eq, rest]

end Pool

end

theorem Aes.KeySchedule.description_ofKey_eq {key other : Bytes}
    (length : key.length = other.length) :
    (ofKey key).map description = (ofKey other).map description := by
  unfold ofKey
  rw [length]
  cases KeySize.ofBytes? other.length with
  | none => rfl
  | some size => rfl

/-- Errors, logs, descriptions and all that can be asked of a context are functions of the settings,
the lengths and the verdicts: runs that have these in common look the same at every step, whatever
the keys and the texts are. Of the bytes of a key, only the length is seen. -/
theorem only_shapes_are_revealed {Key Other : Type} [BlockCipher Key] [BlockCipher Other] :
    (∀ (first : List (Action Key)) (second : List (Action Other)),
      List.Forall₂ Action.SameShape first second →
      Pool.empty.verdicts first = Pool.empty.verdicts second →
      Pool.empty.observe first = Pool.empty.observe second) ∧
    ∀ key other : Bytes, key.length = other.length →
      (Aes.KeySchedule.ofKey key).map Aes.KeySchedule.description =
        (Aes.KeySchedule.ofKey other).map Aes.KeySchedule.description :=
  ⟨fun _ _ shapes verdicts => Pool.observe_eq Pool.sameShape_empty shapes verdicts,
    fun _ _ length => Aes.KeySchedule.description_ofKey_eq length⟩

theorem only_shapes_are_revealed_wrong_tag :
    let actions (key : Block → Block) (byte : UInt8) : List (Action (Block → Block)) :=
      [.create 0 key {},
        .call 0 (.initialise .decrypt [byte] [1, byte]),
        .call 0 (.updateInPlace [byte, 2, byte]),
        .call 0 (.finaliseDecryption (List.replicate 16 byte)),
        .call 0 (.updateInPlace [byte]),
        .encrypt ⟨key, {}⟩ [byte] [byte] [3, byte]]
    let first := actions id 4
    let second := actions (Block.xor (Vector.replicate 16 5)) 6
    Pool.empty.verdicts first = [false] ∧ Pool.empty.verdicts second = [false] ∧
      Pool.empty.observe first = Pool.empty.observe second := by
  intro actions first second
  have firstVerdicts : Pool.empty.verdicts first = [false] := by decide +kernel
  have secondVerdicts : Pool.empty.verdicts second = [false] := by decide +kernel
  have shapes : List.Forall₂ Action.SameShape first second :=
    .cons (.create 0 _ _ {}) <| .cons (.call 0 (.initialise .decrypt rfl rfl)) <|
      .cons (.call 0 (.updateInPlace rfl)) <| .cons (.call 0 (.finaliseDecryption rfl)) <|
      .cons (.call 0 (.updateInPlace rfl)) <| .cons (.encrypt _ _ {} rfl rfl rfl) .nil
  exact ⟨firstVerdicts, secondVerdicts,
    only_shapes_are_revealed.1 first second shapes (firstVerdicts.trans secondVerdicts.symm)⟩

end GaloisCounter
