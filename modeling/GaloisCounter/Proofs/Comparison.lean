import GaloisCounter.Proofs.OneShot
import Mathlib.Data.List.Forall2

/-!
Two runs side by side.

A comparison says which bytes, keys, settings and sessions of two runs are related. If starting a
message and processing text keep sessions related, then contexts in the same phase stay related
under all calls with related arguments, and so do the replies, with the same errors and the same
events. The one thing that a relation may leave open is whether a tag is right, so the calls that
judge a tag are assumed to come to the same verdict. Where related bytes are equal they always do.
-/

namespace GaloisCounter

/-! ## Results -/

inductive ResultsAlike (values : First → Second → Prop) :
    Except Error First → Except Error Second → Prop
  | error (error : Error) : ResultsAlike values (.error error) (.error error)
  | ok {first : First} {second : Second} (related : values first second) :
      ResultsAlike values (.ok first) (.ok second)

/-- Unless one of them is a refusal, both are results or both are errors. -/
def SameVerdict (first : Except Error First) (second : Except Error Second) : Prop :=
  ¬Rejected first → ¬Rejected second → first.isOk = second.isOk

theorem eq_of_sameVerdict {first second : Bool} {operation cause : String}
    (verdict : SameVerdict
      (if first then .ok () else .error (.notAuthentic operation cause) : Except Error Unit)
      (if second then .ok () else .error (.notAuthentic operation cause) : Except Error Unit)) :
    first = second := by
  have judged (right : Bool) : ¬Rejected
      (if right then .ok () else .error (.notAuthentic operation cause) : Except Error Unit) := by
    cases right <;> simp [Rejected, Error.notAuthentic, Error.category]
  have same := verdict (judged first) (judged second)
  cases first
  all_goals
    cases second
    all_goals
      first
      | rfl
      | cases same

theorem rejected_map_iff (transform : First → Second) (result : Except Error First) :
    Rejected (result.map transform) ↔ Rejected result := by
  cases result with
  | error error => simp [Rejected, Except.map]
  | ok value => simp [Rejected, Except.map]

theorem isOk_map (transform : First → Second) (result : Except Error First) :
    (result.map transform).isOk = result.isOk := by
  cases result <;> rfl

theorem sameVerdict_map_iff {first : Except Error First} {second : Except Error Second}
    (transform : First → Third) (other : Second → Fourth) :
    SameVerdict (first.map transform) (second.map other) ↔ SameVerdict first second := by
  rw [SameVerdict, SameVerdict, rejected_map_iff, rejected_map_iff, isOk_map, isOk_map]

namespace ResultsAlike

variable {values : First → Second → Prop} {first : Except Error First}
  {second : Except Error Second}

theorem map {results : Third → Fourth → Prop} (alike : ResultsAlike values first second)
    {transform : First → Third} {other : Second → Fourth}
    (related : ∀ {value otherValue}, values value otherValue →
      results (transform value) (other otherValue)) :
    ResultsAlike results (first.map transform) (second.map other) := by
  cases alike with
  | error error => exact .error error
  | ok values => exact .ok (related values)

theorem map_eq (alike : ResultsAlike values first second) {transform : First → Value}
    {other : Second → Value}
    (related : ∀ {value otherValue}, values value otherValue →
      transform value = other otherValue) :
    first.map transform = second.map other := by
  cases alike with
  | error error => rfl
  | ok values => exact congrArg Except.ok (related values)

protected theorem eq {first second : Except Error Value} (alike : ResultsAlike Eq first second) :
    first = second := by
  cases alike with
  | error error => rfl
  | ok same => exact congrArg Except.ok same

theorem isOk_eq (alike : ResultsAlike values first second) : first.isOk = second.isOk := by
  cases alike with
  | error error => rfl
  | ok related => rfl

theorem rejected_iff (alike : ResultsAlike values first second) :
    Rejected first ↔ Rejected second := by
  cases alike with
  | error error => simp [Rejected]
  | ok related => simp [Rejected]

theorem rejected_iff_of_verdict
    (alike : SameVerdict first second → ResultsAlike values first second) :
    Rejected first ↔ Rejected second := by
  by_cases firstRejected : Rejected first
  · exact (alike fun accepted => absurd firstRejected accepted).rejected_iff
  · by_cases secondRejected : Rejected second
    · exact (alike fun _ accepted => absurd secondRejected accepted).rejected_iff
    · exact iff_of_false firstRejected secondRejected

end ResultsAlike

theorem elim_eq_of_rel {values : First → Second → Prop} {first : Option First}
    {second : Option Second} {read : First → Value} {other : Second → Value} (default : Value)
    (related : Option.Rel values first second)
    (same : ∀ {value otherValue}, values value otherValue → read value = other otherValue) :
    first.elim default read = second.elim default other := by
  cases related with
  | none => rfl
  | some related => exact same related

theorem map_eq_of_rel {values : First → Second → Prop} {first : Option First}
    {second : Option Second} {read : First → Value} {other : Second → Value}
    (related : Option.Rel values first second)
    (same : ∀ {value otherValue}, values value otherValue → read value = other otherValue) :
    first.map read = second.map other := by
  cases related with
  | none => rfl
  | some related => exact congrArg some (same related)

namespace Traced

structure Alike (values : First → Second → Prop) (first : Traced First)
    (second : Traced Second) : Prop where
  value : values first.value second.value
  events : first.events = second.events

namespace Alike

variable {values : First → Second → Prop} {results : Third → Fourth → Prop}

protected theorem pure {first : First} {second : Second} (related : values first second) :
    Alike values (pure first) (pure second) :=
  ⟨related, rfl⟩

theorem bindValue {first : Traced First} {second : Traced Second} {next : First → Traced Third}
    {other : Second → Traced Fourth} (alike : Alike values first second)
    (nextAlike : Alike results (next first.value) (other second.value)) :
    Alike results (first >>= next) (second >>= other) where
  value := nextAlike.value
  events := by rw [events_bind, events_bind, alike.events, nextAlike.events]

protected theorem bind {first : Traced First} {second : Traced Second} {next : First → Traced Third}
    {other : Second → Traced Fourth} (alike : Alike values first second)
    (nextAlike : ∀ value otherValue, values value otherValue →
      Alike results (next value) (other otherValue)) :
    Alike results (first >>= next) (second >>= other) :=
  alike.bindValue (nextAlike _ _ alike.value)

protected theorem refl (traced : Traced Value) : Alike Eq traced traced :=
  ⟨rfl, rfl⟩

theorem map {first : Traced First} {second : Traced Second} (alike : Alike values first second)
    {transform : First → Third} {other : Second → Fourth}
    (related : values first.value second.value →
      results (transform first.value) (other second.value)) :
    Alike results (transform <$> first) (other <$> second) :=
  alike.bindValue (.pure (related alike.value))

theorem runBind {first : ExceptT Error Traced First} {second : ExceptT Error Traced Second}
    {next : First → ExceptT Error Traced Third} {other : Second → ExceptT Error Traced Fourth}
    (alike : Alike (ResultsAlike values) first.run second.run)
    (nextAlike : ∀ value otherValue, first.run.value = .ok value →
      second.run.value = .ok otherValue → values value otherValue →
      Alike (ResultsAlike results) (next value).run (other otherValue).run) :
    Alike (ResultsAlike results) (first >>= next).run (second >>= other).run := by
  change Alike _ (first.run >>= ExceptT.bindCont next) (second.run >>= ExceptT.bindCont other)
  refine alike.bindValue ?_
  have related := alike.value
  generalize first.run.value = result at related nextAlike
  generalize second.run.value = otherResult at related nextAlike
  cases related with
  | error error => exact .pure (.error error)
  | ok related => exact nextAlike _ _ rfl rfl related

theorem runBind_of_verdict {first : ExceptT Error Traced First}
    {second : ExceptT Error Traced Second} {next : First → ExceptT Error Traced Third}
    {other : Second → ExceptT Error Traced Fourth}
    (alike : Alike (ResultsAlike values) first.run second.run)
    (nextAlike : ∀ value otherValue, values value otherValue →
      SameVerdict (next value).run.value (other otherValue).run.value →
      Alike (ResultsAlike results) (next value).run (other otherValue).run)
    (verdict : SameVerdict (first >>= next).run.value (second >>= other).run.value) :
    Alike (ResultsAlike results) (first >>= next).run (second >>= other).run := by
  refine alike.runBind fun value otherValue reached otherReached related =>
    nextAlike value otherValue related ?_
  rw [value_run_bind, value_run_bind, reached, otherReached] at verdict
  exact verdict

end Alike

end Traced

/-! ## Sessions report nothing -/

namespace Session

variable {Key : Type} [BlockCipher Key] (session : Session) (key : Key) (direction : Direction)

theorem events_begin (data : Bytes) : (session.begin key direction data).events = [] := by
  unfold begin
  split <;> rfl

theorem events_processBlocks (blocks : List Block) :
    (session.processBlocks key direction blocks).events = [] := by
  induction blocks generalizing session with
  | nil => rfl
  | cons block rest induction =>
      rw [processBlocks, Traced.events_bind, Traced.events_bind, induction]
      rfl

theorem events_process (data : Bytes) : (session.process key direction data).events = [] := by
  unfold process
  rw [Traced.events_bind, Traced.events_bind, events_processBlocks, events_begin]
  rfl

theorem events_tagBlock : (session.tagBlock key).events = [] := rfl

end Session

def Operation.judges : Operation → Bool
  | .finaliseDecryption _ => true
  | _ => false

theorem Context.answer_of_valid {Key : Type} [BlockCipher Key] {context : Context Key} {tag : Bytes}
    {session : Session}
    (valid : context.checkFinalise "finalize_decryption" .decrypt = .ok ())
    (sized : (context.checkTagLength tag.length).value = .ok ())
    (present : context.session = some session) :
    (context.finaliseDecryption tag).value.answer =
      if Tag.verifyBlock (session.tagBlock context.key).value tag then .ok ()
      else .error (.notAuthentic "finalize_decryption" "tag mismatch") := by
  rw [finaliseDecryption, valid]
  simp only [Traced.value_bind, sized, present]
  split <;> rfl

/-! ## Comparisons -/

theorem Config.eq_with_backend {config other : Config} (same : config = other) :
    config = { other with backend := config.backend } := by
  subst same
  rfl

/-- Which parts of two runs are related, and why sessions stay so. -/
structure Comparison (Key Other : Type) [BlockCipher Key] [BlockCipher Other] where
  bytes : UInt8 → UInt8 → Prop
  keys : Key → Other → Prop
  configs : Config → Config → Prop
  sessions : Session → Session → Prop
  settings {config other : Config} (related : configs config other) :
    config = { other with backend := config.backend }
  aadLength {session other : Session} (related : sessions session other) :
    session.aadLength = other.aadLength
  textLength {session other : Session} (related : sessions session other) :
    session.textLength = other.textLength
  start {key : Key} {otherKey : Other} {config otherConfig : Config} {iv aad otherIv otherAad : Bytes}
    (keysRelated : keys key otherKey) (configsRelated : configs config otherConfig)
    (ivs : List.Forall₂ bytes iv otherIv) (aads : List.Forall₂ bytes aad otherAad) :
    sessions (Session.start key config.backend iv aad).value
      (Session.start otherKey otherConfig.backend otherIv otherAad).value
  process {key : Key} {otherKey : Other} {session otherSession : Session} {data otherData : Bytes}
    (direction : Direction) (keysRelated : keys key otherKey)
    (sessionsRelated : sessions session otherSession) (texts : List.Forall₂ bytes data otherData) :
    sessions (session.process key direction data).value.1
        (otherSession.process otherKey direction otherData).value.1 ∧
      List.Forall₂ bytes (session.process key direction data).value.2
        (otherSession.process otherKey direction otherData).value.2
  tagBlock {key : Key} {otherKey : Other} {session otherSession : Session}
    (keysRelated : keys key otherKey) (sessionsRelated : sessions session otherSession) :
    List.Forall₂ bytes (session.tagBlock key).value.toList
      (otherSession.tagBlock otherKey).value.toList

namespace Comparison

variable {Key Other : Type} [BlockCipher Key] [BlockCipher Other]
  (comparison : Comparison Key Other)

def Texts : Bytes → Bytes → Prop := List.Forall₂ comparison.bytes

structure Contexts (first : Context Key) (second : Context Other) : Prop where
  keys : comparison.keys first.key second.key
  configs : comparison.configs first.config second.config
  phase : first.phase = second.phase
  direction : first.direction = second.direction
  sessions : Option.Rel comparison.sessions first.session second.session

structure Gcms (first : Gcm Key) (second : Gcm Other) : Prop where
  keys : comparison.keys first.key second.key
  configs : comparison.configs first.config second.config

inductive Operations : Operation → Operation → Prop
  | initialise (direction : Direction) {iv aad otherIv otherAad : Bytes}
      (ivs : comparison.Texts iv otherIv) (aads : comparison.Texts aad otherAad) :
      Operations (.initialise direction iv aad) (.initialise direction otherIv otherAad)
  | update {input output otherInput otherOutput : Bytes}
      (inputs : comparison.Texts input otherInput)
      (outputs : comparison.Texts output otherOutput) :
      Operations (.update input output) (.update otherInput otherOutput)
  | updateInPlace {buffer otherBuffer : Bytes} (buffers : comparison.Texts buffer otherBuffer) :
      Operations (.updateInPlace buffer) (.updateInPlace otherBuffer)
  | finaliseEncryption : Operations .finaliseEncryption .finaliseEncryption
  | finaliseDecryption {tag otherTag : Bytes} (tags : comparison.Texts tag otherTag) :
      Operations (.finaliseDecryption tag) (.finaliseDecryption otherTag)

structure Tags (first second : Tag) : Prop where
  length : first.length = second.length
  bytes : comparison.Texts first.bytes second.bytes

inductive Answers : Answer → Answer → Prop
  | done : Answers .done .done
  | written (count : Nat) : Answers (.written count) (.written count)
  | sealed {tag other : Tag} (tags : comparison.Tags tag other) :
      Answers (.sealed tag) (.sealed other)

structure Replies (first second : Reply) : Prop where
  answer : ResultsAlike comparison.Answers first.answer second.answer
  buffer : comparison.Texts first.buffer second.buffer

structure Outcomes (values : First → Second → Prop) (first : Outcome Key First)
    (second : Outcome Other Second) : Prop where
  answer : ResultsAlike values first.answer second.answer
  context : comparison.Contexts first.context second.context

structure BufferOutcomes (values : First → Second → Prop) (first : BufferOutcome Key First)
    (second : BufferOutcome Other Second) : Prop extends
    comparison.Outcomes values first.toOutcome second.toOutcome where
  buffer : comparison.Texts first.buffer second.buffer

structure Performances (first : Reply × Context Key) (second : Reply × Context Other) : Prop where
  replies : comparison.Replies first.1 second.1
  contexts : comparison.Contexts first.2 second.2

variable {comparison}

/-! ## Checks -/

namespace Contexts

variable {first : Context Key} {second : Context Other}

theorem new {key : Key} {otherKey : Other} {config otherConfig : Config}
    (keys : comparison.keys key otherKey) (configs : comparison.configs config otherConfig) :
    comparison.Contexts (Context.new key config) (Context.new otherKey otherConfig) where
  keys := keys
  configs := configs
  phase := rfl
  direction := rfl
  sessions := .none

section

variable (contexts : comparison.Contexts first second)

include contexts

theorem aadLength : first.aadLength = second.aadLength :=
  elim_eq_of_rel 0 contexts.sessions comparison.aadLength

theorem processedLength : first.processedLength = second.processedLength :=
  elim_eq_of_rel 0 contexts.sessions comparison.textLength

theorem tagLength : first.config.tagLength = second.config.tagLength := by
  rw [comparison.settings contexts.configs]

theorem validateStart {iv aad otherIv otherAad : Bytes} (ivs : comparison.Texts iv otherIv)
    (aads : comparison.Texts aad otherAad) :
    first.config.validateStart iv aad = second.config.validateStart otherIv otherAad := by
  rw [comparison.settings contexts.configs]
  exact second.config.validateStart_eq_of_length_eq ivs.length_eq aads.length_eq

theorem checkUpdate (length : Nat) : first.checkUpdate length = second.checkUpdate length := by
  rw [Context.checkUpdate, Context.checkUpdate, contexts.phase, contexts.processedLength,
    comparison.settings contexts.configs]
  rfl

theorem checkFinalise (operation : String) (expected : Direction) :
    first.checkFinalise operation expected = second.checkFinalise operation expected := by
  rw [Context.checkFinalise, Context.checkFinalise, contexts.phase, contexts.direction]

theorem checkTagLength (length : Nat) :
    first.checkTagLength length = second.checkTagLength length := by
  rw [Context.checkTagLength, Context.checkTagLength, contexts.tagLength]

theorem refused (values : First → Second → Prop) (error : Error) :
    comparison.Outcomes values ⟨.error error, first⟩ ⟨.error error, second⟩ :=
  ⟨.error error, contexts⟩

theorem refusedBuffer (values : First → Second → Prop) (error : Error) {buffer otherBuffer : Bytes}
    (buffers : comparison.Texts buffer otherBuffer) :
    comparison.BufferOutcomes values ⟨⟨.error error, first⟩, buffer⟩
      ⟨⟨.error error, second⟩, otherBuffer⟩ :=
  ⟨contexts.refused values error, buffers⟩

end

end Contexts

/-! ## Sessions -/

section

variable {key : Key} {otherKey : Other} {session otherSession : Session}
  (keys : comparison.keys key otherKey) (sessions : comparison.sessions session otherSession)

include keys sessions

theorem processSession (direction : Direction) {data otherData : Bytes}
    (texts : comparison.Texts data otherData) :
    Traced.Alike
      (fun first second => comparison.sessions first.1 second.1 ∧
        comparison.Texts first.2 second.2)
      (session.process key direction data) (otherSession.process otherKey direction otherData) where
  value := comparison.process direction keys sessions texts
  events := by rw [Session.events_process, Session.events_process]

theorem tagSession :
    Traced.Alike (fun first second => comparison.Texts first.toList second.toList)
      (session.tagBlock key) (otherSession.tagBlock otherKey) where
  value := comparison.tagBlock keys sessions
  events := by rw [Session.events_tagBlock, Session.events_tagBlock]

end

/-! ## Calls -/

section

variable {first : Context Key} {second : Context Other}
  (contexts : comparison.Contexts first second)

include contexts

theorem initialise (direction : Direction) {iv aad otherIv otherAad : Bytes}
    (ivs : comparison.Texts iv otherIv) (aads : comparison.Texts aad otherAad) :
    Traced.Alike (comparison.Outcomes Eq) (first.initialise direction iv aad)
      (second.initialise direction otherIv otherAad) := by
  have checks := contexts.validateStart ivs aads
  have ivLength : iv.length = otherIv.length := ivs.length_eq
  have aadLength : aad.length = otherAad.length := aads.length_eq
  have started : Traced.Alike comparison.sessions
      (Session.start first.key first.config.backend iv aad)
      (Session.start second.key second.config.backend otherIv otherAad) :=
    ⟨comparison.start contexts.keys contexts.configs ivs aads, rfl⟩
  rw [Config.validateStart, Config.validateStart] at checks
  unfold Context.initialise
  dsimp only
  rw [checks, ivLength, aadLength, contexts.tagLength]
  split
  · next error _ => exact .pure (contexts.refused Eq error)
  · refine started.bind fun session otherSession sessions =>
      (Traced.Alike.refl _).bind fun _ _ _ => .pure ⟨.ok rfl, ?_⟩
    exact ⟨contexts.keys, contexts.configs, rfl, rfl, .some sessions⟩

theorem processText {data otherData : Bytes} (texts : comparison.Texts data otherData) :
    Traced.Alike
      (fun first second => comparison.Contexts first.1 second.1 ∧
        comparison.Texts first.2 second.2)
      (first.process data) (second.process otherData) := by
  have length : data.length = otherData.length := texts.length_eq
  have sessions := contexts.sessions
  unfold Context.process
  rw [contexts.direction]
  generalize first.session = session at sessions
  generalize second.session = otherSession at sessions
  cases sessions with
  | none => exact .pure ⟨contexts, texts⟩
  | some sessions =>
      cases second.direction with
      | none => exact .pure ⟨contexts, texts⟩
      | some direction =>
          refine (processSession contexts.keys sessions direction texts).bind ?_
          rintro ⟨session, output⟩ ⟨otherSession, otherOutput⟩ ⟨sessions, outputs⟩
          dsimp only at sessions outputs ⊢
          rw [length, comparison.textLength sessions]
          refine (Traced.Alike.refl _).bind fun _ _ _ => .pure ⟨?_, outputs⟩
          exact ⟨contexts.keys, contexts.configs, rfl, rfl, .some sessions⟩

theorem update {input output otherInput otherOutput : Bytes}
    (inputs : comparison.Texts input otherInput) (outputs : comparison.Texts output otherOutput) :
    Traced.Alike (comparison.BufferOutcomes Eq) (first.update input output)
      (second.update otherInput otherOutput) := by
  have inputLength : input.length = otherInput.length := inputs.length_eq
  have outputLength : output.length = otherOutput.length := outputs.length_eq
  unfold Context.update
  rw [inputLength, outputLength, contexts.checkUpdate]
  split
  · exact .pure (contexts.refusedBuffer Eq _ outputs)
  · split
    · next error _ => exact .pure (contexts.refusedBuffer Eq error outputs)
    · refine (processText contexts inputs).bind fun processed otherProcessed related =>
        .pure ⟨⟨.ok rfl, related.1⟩, ?_⟩
      exact List.rel_append related.2 (List.forall₂_drop _ outputs)

theorem updateInPlace {buffer otherBuffer : Bytes}
    (buffers : comparison.Texts buffer otherBuffer) :
    Traced.Alike (comparison.BufferOutcomes Eq) (first.updateInPlace buffer)
      (second.updateInPlace otherBuffer) := by
  have length : buffer.length = otherBuffer.length := buffers.length_eq
  unfold Context.updateInPlace
  rw [length, contexts.checkUpdate]
  split
  · next error _ => exact .pure (contexts.refusedBuffer Eq error buffers)
  · exact (processText contexts buffers).bind fun processed otherProcessed related =>
      .pure ⟨⟨.ok rfl, related.1⟩, related.2⟩

theorem finaliseEncryption :
    Traced.Alike (comparison.Outcomes comparison.Tags) first.finaliseEncryption
      second.finaliseEncryption := by
  have sessions := contexts.sessions
  unfold Context.finaliseEncryption
  dsimp only
  rw [contexts.checkFinalise, contexts.tagLength, contexts.phase]
  split
  · next error _ => exact .pure (contexts.refused _ error)
  · generalize first.session = session at sessions
    generalize second.session = otherSession at sessions
    cases sessions with
    | none => exact .pure (contexts.refused _ _)
    | some sessions =>
        dsimp only
        rw [comparison.aadLength sessions, comparison.textLength sessions]
        refine (tagSession contexts.keys sessions).bind fun block otherBlock blocks =>
          (Traced.Alike.refl _).bind fun _ _ _ => .pure ⟨.ok ⟨rfl, ?_⟩, ?_⟩
        · exact List.forall₂_take _ blocks
        · exact ⟨contexts.keys, contexts.configs, rfl, contexts.direction, .none⟩

theorem verifyBlock_eq {tag otherTag : Bytes} {session otherSession : Session}
    (valid : second.checkFinalise "finalize_decryption" .decrypt = .ok ())
    (sized : (second.checkTagLength otherTag.length).value = .ok ())
    (length : tag.length = otherTag.length) (present : first.session = some session)
    (otherPresent : second.session = some otherSession)
    (verdict : SameVerdict (first.finaliseDecryption tag).value.answer
      (second.finaliseDecryption otherTag).value.answer) :
    Tag.verifyBlock (session.tagBlock first.key).value tag =
      Tag.verifyBlock (otherSession.tagBlock second.key).value otherTag := by
  have firstValid := (contexts.checkFinalise _ _).trans valid
  have firstSized : (first.checkTagLength tag.length).value = .ok () := by
    rw [contexts.checkTagLength, length, sized]
  rw [Context.answer_of_valid firstValid firstSized present,
    Context.answer_of_valid valid sized otherPresent] at verdict
  exact eq_of_sameVerdict verdict

theorem finaliseDecryption_of_verifyBlock {tag otherTag : Bytes}
    (tags : comparison.Texts tag otherTag)
    (judged : second.checkFinalise "finalize_decryption" .decrypt = .ok () →
      (second.checkTagLength otherTag.length).value = .ok () →
      ∀ session otherSession, first.session = some session → second.session = some otherSession →
        Tag.verifyBlock (session.tagBlock first.key).value tag =
          Tag.verifyBlock (otherSession.tagBlock second.key).value otherTag) :
    Traced.Alike (comparison.Outcomes Eq) (first.finaliseDecryption tag)
      (second.finaliseDecryption otherTag) := by
  have length : tag.length = otherTag.length := tags.length_eq
  have sessions := contexts.sessions
  have closed (phase : Phase) : comparison.Contexts
      { first with session := none, phase } { second with session := none, phase } :=
    ⟨contexts.keys, contexts.configs, rfl, contexts.direction, .none⟩
  unfold Context.finaliseDecryption
  dsimp only
  rw [contexts.checkFinalise, contexts.checkTagLength, contexts.phase, length]
  split
  · next error _ => exact .pure (contexts.refused _ error)
  · next valid =>
    refine (Traced.Alike.refl _).bindValue ?_
    cases sized : (second.checkTagLength otherTag.length).value with
    | error error => exact .pure (contexts.refused _ error)
    | ok _ =>
        have same := judged valid sized
        generalize first.session = session at sessions same
        generalize second.session = otherSession at sessions same
        cases sessions with
        | none => exact .pure (contexts.refused _ _)
        | some sessions =>
            dsimp only
            rw [comparison.aadLength sessions, comparison.textLength sessions]
            refine (tagSession contexts.keys sessions).bindValue ?_
            rw [same _ _ rfl rfl]
            split
            · exact (Traced.Alike.refl _).bind fun _ _ _ => .pure ⟨.ok rfl, closed _⟩
            · exact (Traced.Alike.refl _).bind fun _ _ _ => .pure ⟨.error _, closed _⟩

/-- What the relation leaves open about the tags has to come to the same verdict. -/
theorem finaliseDecryption {tag otherTag : Bytes} (tags : comparison.Texts tag otherTag)
    (verdict : SameVerdict (first.finaliseDecryption tag).value.answer
      (second.finaliseDecryption otherTag).value.answer) :
    Traced.Alike (comparison.Outcomes Eq) (first.finaliseDecryption tag)
      (second.finaliseDecryption otherTag) :=
  finaliseDecryption_of_verifyBlock contexts tags fun valid sized _ _ present otherPresent =>
    verifyBlock_eq contexts valid sized tags.length_eq present otherPresent verdict

theorem perform {operation otherOperation : Operation}
    (operations : comparison.Operations operation otherOperation)
    (verdict : operation.judges → SameVerdict (first.perform operation).value.1.answer
      (second.perform otherOperation).value.1.answer) :
    Traced.Alike comparison.Performances (first.perform operation)
      (second.perform otherOperation) := by
  cases operations with
  | initialise direction ivs aads =>
      exact (initialise contexts direction ivs aads).bind fun _ _ outcomes =>
        .pure ⟨⟨outcomes.answer.map fun _ => .done, .nil⟩, outcomes.context⟩
  | update inputs outputs =>
      refine (update contexts inputs outputs).bind fun _ _ outcomes =>
        .pure ⟨⟨outcomes.answer.map ?_, outcomes.buffer⟩, outcomes.context⟩
      rintro count _ rfl
      exact .written count
  | updateInPlace buffers =>
      exact (updateInPlace contexts buffers).bind fun _ _ outcomes =>
        .pure ⟨⟨outcomes.answer.map fun _ => .done, outcomes.buffer⟩, outcomes.context⟩
  | finaliseEncryption =>
      exact (finaliseEncryption contexts).bind fun _ _ outcomes =>
        .pure ⟨⟨outcomes.answer.map .sealed, .nil⟩, outcomes.context⟩
  | @finaliseDecryption tag otherTag tags =>
      have judged : SameVerdict (first.finaliseDecryption tag).value.answer
          (second.finaliseDecryption otherTag).value.answer :=
        (sameVerdict_map_iff _ _).mp (verdict rfl)
      exact (finaliseDecryption contexts tags judged).bind fun _ _ outcomes =>
        .pure ⟨⟨outcomes.answer.map fun _ => .done, .nil⟩, outcomes.context⟩

end

/-! ## Whole messages -/

section

variable {gcm : Gcm Key} {other : Gcm Other} (gcms : comparison.Gcms gcm other)
  {iv aad otherIv otherAad : Bytes} (ivs : comparison.Texts iv otherIv)
  (aads : comparison.Texts aad otherAad)

theorem processed {first : Context Key} {second : Context Other} {text otherText : Bytes}
    (contexts : comparison.Contexts first second) (texts : comparison.Texts text otherText) :
    Traced.Alike
      (ResultsAlike fun first second => comparison.Texts first.1 second.1 ∧
        comparison.Contexts first.2 second.2)
      (Gcm.processed first text) (Gcm.processed second otherText) := by
  unfold Gcm.processed
  cases texts with
  | nil => exact .pure (.ok ⟨.nil, contexts⟩)
  | cons byte rest =>
      exact (updateInPlace contexts (.cons byte rest)).bind fun _ _ outcomes =>
        .pure (outcomes.answer.map fun _ => ⟨outcomes.buffer, outcomes.context⟩)

include gcms ivs aads

theorem started (direction : Direction) :
    Traced.Alike (ResultsAlike comparison.Contexts) (gcm.started direction iv aad)
      (other.started direction otherIv otherAad) :=
  (initialise (.new gcms.keys gcms.configs) direction ivs aads).bind fun _ _ outcomes =>
    .pure (outcomes.answer.map fun _ => outcomes.context)

theorem encryptDetached {text otherText : Bytes} (texts : comparison.Texts text otherText) :
    Traced.Alike
      (ResultsAlike fun first second => comparison.Texts first.1 second.1 ∧
        comparison.Tags first.2 second.2)
      (gcm.encryptDetached iv aad text) (other.encryptDetached otherIv otherAad otherText) := by
  refine Traced.Alike.runBind (started gcms ivs aads .encrypt)
    fun context otherContext _ _ contexts =>
      Traced.Alike.runBind (processed contexts texts) ?_
  rintro ⟨ciphertext, context⟩ ⟨otherCiphertext, otherContext⟩ _ _ ⟨ciphertexts, contexts⟩
  have sealed : Traced.Alike (ResultsAlike comparison.Tags)
      (Outcome.answer <$> context.finaliseEncryption)
      (Outcome.answer <$> otherContext.finaliseEncryption) :=
    (finaliseEncryption contexts).map Outcomes.answer
  exact sealed.runBind fun tag otherTag _ _ tags => .pure (.ok ⟨ciphertexts, tags⟩)

theorem encrypt {text otherText : Bytes} (texts : comparison.Texts text otherText) :
    Traced.Alike (ResultsAlike comparison.Texts) (gcm.encrypt iv aad text)
      (other.encrypt otherIv otherAad otherText) :=
  (encryptDetached gcms ivs aads texts).bind fun _ _ results =>
    .pure (results.map fun sealed => List.rel_append sealed.1 sealed.2.bytes)

theorem decryptDetached {ciphertext otherCiphertext tag otherTag : Bytes}
    (ciphertexts : comparison.Texts ciphertext otherCiphertext)
    (tags : comparison.Texts tag otherTag)
    (verdict : SameVerdict (gcm.decryptDetached iv aad ciphertext tag).value
      (other.decryptDetached otherIv otherAad otherCiphertext otherTag).value) :
    Traced.Alike (ResultsAlike comparison.Texts) (gcm.decryptDetached iv aad ciphertext tag)
      (other.decryptDetached otherIv otherAad otherCiphertext otherTag) := by
  refine Traced.Alike.runBind_of_verdict (started gcms ivs aads .decrypt)
    (fun context otherContext contexts => Traced.Alike.runBind_of_verdict
      (processed contexts ciphertexts) ?_) verdict
  rintro ⟨plaintext, context⟩ ⟨otherPlaintext, otherContext⟩ ⟨plaintexts, contexts⟩ verdict
  have judged : SameVerdict (context.finaliseDecryption tag).value.answer
      (otherContext.finaliseDecryption otherTag).value.answer := by
    rw [Traced.value_run_bind, Traced.value_run_bind] at verdict
    exact (sameVerdict_map_iff _ _).mp verdict
  have opened : Traced.Alike (ResultsAlike Eq)
      (Outcome.answer <$> context.finaliseDecryption tag)
      (Outcome.answer <$> otherContext.finaliseDecryption otherTag) :=
    (finaliseDecryption contexts tags judged).map Outcomes.answer
  exact opened.runBind fun _ _ _ _ _ => .pure (.ok plaintexts)

theorem decrypt {sealed otherSealed : Bytes} (texts : comparison.Texts sealed otherSealed)
    (verdict : SameVerdict (gcm.decrypt iv aad sealed).value
      (other.decrypt otherIv otherAad otherSealed).value) :
    Traced.Alike (ResultsAlike comparison.Texts) (gcm.decrypt iv aad sealed)
      (other.decrypt otherIv otherAad otherSealed) := by
  have length : sealed.length = otherSealed.length := texts.length_eq
  have tagLength : gcm.config.tagLength = other.config.tagLength := by
    rw [comparison.settings gcms.configs]
  unfold Gcm.decrypt at verdict ⊢
  dsimp only at verdict ⊢
  rw [length, tagLength] at verdict ⊢
  split
  · exact .pure (.error _)
  · next enough =>
    rw [if_neg enough, if_neg enough] at verdict
    exact decryptDetached gcms ivs aads (List.forall₂_take _ texts)
      (List.forall₂_drop _ texts) verdict

end

/-! ## Equal bytes -/

section

variable (exact : comparison.bytes = Eq)

include exact

theorem texts_iff {first second : Bytes} : comparison.Texts first second ↔ first = second := by
  rw [Texts, exact, List.forall₂_eq_eq_eq]

theorem operations_refl (operation : Operation) : comparison.Operations operation operation := by
  have same (bytes : Bytes) : comparison.Texts bytes bytes := (texts_iff exact).mpr rfl
  cases operation with
  | initialise direction iv aad => exact .initialise direction (same iv) (same aad)
  | update input output => exact .update (same input) (same output)
  | updateInPlace buffer => exact .updateInPlace (same buffer)
  | finaliseEncryption => exact .finaliseEncryption
  | finaliseDecryption tag => exact .finaliseDecryption (same tag)

theorem Answers.eq {answer other : Answer} (answers : comparison.Answers answer other) :
    answer = other := by
  cases answers with
  | done => rfl
  | written count => rfl
  | @sealed tag otherTag tags =>
      have length := tags.length
      have bytes := (texts_iff exact).mp tags.bytes
      cases tag
      cases otherTag
      simp_all

theorem Replies.eq {reply other : Reply} (replies : comparison.Replies reply other) :
    reply = other := by
  have answer : reply.answer.map id = other.answer.map id :=
    replies.answer.map_eq (Answers.eq exact)
  have buffer := (texts_iff exact).mp replies.buffer
  rw [Except.map_id, id, id] at answer
  cases reply
  cases other
  simp_all

section

variable {first : Context Key} {second : Context Other}
  (contexts : comparison.Contexts first second)

include contexts

theorem sameVerdict_of_exact (tag : Bytes) :
    SameVerdict (first.finaliseDecryption tag).value.answer
      (second.finaliseDecryption tag).value.answer := by
  have tags : comparison.Texts tag tag := (texts_iff exact).mpr rfl
  intro _ _
  refine (finaliseDecryption_of_verifyBlock contexts tags ?_).value.answer.isOk_eq
  intro _ _ session otherSession present otherPresent
  have sessions := contexts.sessions
  rw [present, otherPresent] at sessions
  cases sessions with
  | some sessions =>
      have blocks := (texts_iff exact).mp (comparison.tagBlock contexts.keys sessions)
      rw [Vector.toList_inj.mp blocks]

theorem perform_of_exact (operation : Operation) :
    Traced.Alike comparison.Performances (first.perform operation) (second.perform operation) := by
  refine perform contexts (operations_refl exact operation) fun judges => ?_
  cases operation with
  | finaliseDecryption tag =>
      exact (sameVerdict_map_iff _ _).mpr (sameVerdict_of_exact exact contexts tag)
  | _ => cases judges

end

theorem run_of_exact {first : Context Key} {second : Context Other}
    (contexts : comparison.Contexts first second) (operations : List Operation) :
    Traced.Alike (fun first second => first.1 = second.1 ∧ comparison.Contexts first.2 second.2)
      (first.run operations) (second.run operations) := by
  induction operations generalizing first second with
  | nil => exact .pure ⟨rfl, contexts⟩
  | cons operation rest induction =>
      refine (perform_of_exact exact contexts operation).bind ?_
      rintro ⟨reply, next⟩ ⟨otherReply, otherNext⟩ ⟨replies, contexts⟩
      refine (induction contexts).bind ?_
      rintro ⟨replies, last⟩ ⟨otherReplies, otherLast⟩ ⟨rfl, contexts⟩
      exact .pure ⟨congrArg (· :: replies) (Replies.eq exact ‹_›), contexts⟩

end

end Comparison

end GaloisCounter
