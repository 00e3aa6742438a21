import GaloisCounter.Proofs.Comparison
import GaloisCounter.Proofs.Hash
import GaloisCounter.Proofs.OneShot

/-!
The two ways of multiplying cannot be told apart.

Both compute the product of the field. Hashes under one subkey that have absorbed the same blocks
therefore have the same accumulator, whatever backend each was prepared for, and nothing else in a
session depends on the backend.
-/

namespace GaloisCounter

/-! ## Hashes -/

def Multiplier.Agree (first second : Multiplier) : Prop :=
  ∀ element, first.multiply element = second.multiply element

theorem Multiplier.agree_ofSubkey (subkey : Element) (backend other : Backend) :
    Agree (ofSubkey subkey backend) (ofSubkey subkey other) := by
  intro element
  apply Element.residue_injective
  rw [residue_multiply, residue_multiply]

namespace GHash

structure Agree (first second : GHash) : Prop where
  multiplier : first.multiplier.Agree second.multiplier
  accumulator : first.accumulator = second.accumulator

theorem agree_start (subkey : Block) (backend other : Backend) :
    Agree (start subkey backend) (start subkey other) :=
  ⟨Multiplier.agree_ofSubkey _ backend other, rfl⟩

namespace Agree

variable {first second : GHash} (agree : first.Agree second)

include agree

theorem value : first.value = second.value :=
  congrArg Element.toBlock agree.accumulator

theorem absorb (block : Block) : (first.absorb block).Agree (second.absorb block) where
  multiplier := agree.multiplier
  accumulator := by
    rw [GHash.absorb, GHash.absorb, agree.accumulator]
    exact agree.multiplier _

theorem absorbAll (blocks : List Block) :
    (first.absorbAll blocks).Agree (second.absorbAll blocks) := by
  induction blocks generalizing first second with
  | nil => exact agree
  | cons block rest induction => exact induction (agree.absorb block)

theorem absorbPadded (bytes : Bytes) :
    (first.absorbPadded bytes).Agree (second.absorbPadded bytes) :=
  agree.absorbAll _

theorem absorbLengths (aadBits textBits : UInt64) :
    (first.absorbLengths aadBits textBits).Agree (second.absorbLengths aadBits textBits) :=
  agree.absorb _

end Agree

theorem digest_eq_of_backend (subkey : Block) (backend other : Backend) (bytes : Bytes)
    (aadBits textBits : UInt64) :
    digest subkey backend bytes aadBits textBits = digest subkey other bytes aadBits textBits :=
  (((agree_start subkey backend other).absorbPadded bytes).absorbLengths aadBits textBits).value

end GHash

theorem preCounterBlock_eq_of_backend (subkey : Block) (backend other : Backend) (iv : Bytes) :
    preCounterBlock subkey backend iv = preCounterBlock subkey other iv := by
  unfold preCounterBlock
  split
  · rfl
  · exact GHash.digest_eq_of_backend ..

/-! ## Sessions -/

namespace Session

/-- The sessions differ at most in how they multiply by the subkey. -/
structure Agree (first second : Session) : Prop where
  hash : first.hash.Agree second.hash
  preCounter : first.preCounter = second.preCounter
  counter : first.counter = second.counter
  keystream : first.keystream = second.keystream
  leftover : first.leftover = second.leftover
  leftoverLength : first.leftoverLength = second.leftoverLength
  aadLength : first.aadLength = second.aadLength
  textLength : first.textLength = second.textLength

def AgreeResult (first second : Session × Bytes) : Prop :=
  first.1.Agree second.1 ∧ first.2 = second.2

theorem AgreeResult.followedBy {first second : Traced (Session × Bytes)}
    {next other : Session → Traced (Session × Bytes)}
    (agree : AgreeResult first.value second.value)
    (nextAgree : ∀ session otherSession, session.Agree otherSession →
      AgreeResult (next session).value (other otherSession).value) :
    AgreeResult (Session.followedBy first next).value (Session.followedBy second other).value := by
  have later := nextAgree _ _ agree.1
  exact ⟨later.1, congrArg₂ (· ++ ·) agree.2 later.2⟩

theorem agree_start {Key : Type} [BlockCipher Key] (key : Key) (backend other : Backend)
    (iv aad : Bytes) : (start key backend iv aad).value.Agree (start key other iv aad).value where
  hash := (GHash.agree_start _ backend other).absorbPadded aad
  preCounter := preCounterBlock_eq_of_backend ..
  counter := congrArg Counter.start (preCounterBlock_eq_of_backend ..)
  keystream := rfl
  leftover := rfl
  leftoverLength := rfl
  aadLength := rfl
  textLength := rfl

section

variable {first second : Session} (agree : first.Agree second) (direction : Direction)

include agree

theorem agree_absorbLeftover : first.absorbLeftover.Agree second.absorbLeftover := by
  unfold absorbLeftover
  rw [agree.leftoverLength, agree.leftover]
  split
  · exact { agree with hash := agree.hash.absorb _, leftover := rfl, leftoverLength := rfl }
  · exact agree

theorem agree_maskPartial (data : Bytes) :
    AgreeResult (first.maskPartial direction data) (second.maskPartial direction data) := by
  unfold maskPartial
  rw [agree.keystream, agree.leftover, agree.leftoverLength]
  exact ⟨{ agree with leftover := rfl, leftoverLength := rfl, keystream := rfl }, rfl⟩

theorem agree_resume (data : Bytes) :
    AgreeResult (first.resume direction data) (second.resume direction data) := by
  have room : first.room = second.room := by rw [room, room, agree.leftoverLength]
  have masked := agree_maskPartial agree direction (data.take second.room)
  unfold resume
  rw [room, agree.leftoverLength]
  split
  · exact ⟨agree, rfl⟩
  · exact ⟨agree_absorbLeftover masked.1, masked.2⟩

variable {Key : Type} [BlockCipher Key] (key : Key)

theorem agree_begin (data : Bytes) :
    AgreeResult (first.begin key direction data).value (second.begin key direction data).value := by
  unfold begin
  split
  · exact ⟨agree, rfl⟩
  · have drawn (keystream : Block) (counter : Counter) :
        Agree { first with keystream, counter } { second with keystream, counter } :=
      { agree with counter := rfl, keystream := rfl }
    rw [agree.counter]
    exact agree_maskPartial (drawn _ _) direction data

theorem agree_processBlock (block : Block) :
    AgreeResult
      ((fun result => (result.1, result.2.toList)) <$>
        first.processBlock key direction block).value
      ((fun result => (result.1, result.2.toList)) <$>
        second.processBlock key direction block).value := by
  rw [map_processBlock, map_processBlock, agree.counter]
  exact ⟨{ agree with hash := agree.hash.absorb _, counter := rfl }, rfl⟩

theorem agree_processBlocks (blocks : List Block) :
    AgreeResult (first.processBlocks key direction blocks).value
      (second.processBlocks key direction blocks).value := by
  induction blocks generalizing first second with
  | nil => exact ⟨agree, rfl⟩
  | cons block rest induction =>
      rw [processBlocks_cons, processBlocks_cons]
      exact (agree_processBlock agree direction key block).followedBy fun _ _ agree =>
        induction agree

theorem agree_processParts (data : Bytes) :
    AgreeResult (first.processParts key direction data).value
      (second.processParts key direction data).value := by
  have room : first.room = second.room := by rw [room, room, agree.leftoverLength]
  have resumed : AgreeResult (pure (first.resume direction data) : Traced _).value
      (pure (second.resume direction data) : Traced _).value := agree_resume agree direction data
  unfold processParts
  rw [room]
  exact (resumed.followedBy fun _ _ agree => agree_processBlocks agree direction key _).followedBy
    fun _ _ agree => agree_begin agree direction key _

theorem agree_process (data : Bytes) :
    AgreeResult (first.process key direction data).value
      (second.process key direction data).value := by
  have parts := agree_processParts agree direction key data
  rw [process_eq, process_eq]
  exact ⟨{ parts.1 with textLength := congrArg (· + _) parts.1.textLength }, parts.2⟩

theorem agree_tagBlock : (first.tagBlock key).value = (second.tagBlock key).value := by
  have hash := ((agree.hash.absorbPadded
    (second.leftover.toList.take second.leftoverLength)).absorbLengths (second.aadLength * 8)
      (second.textLength * 8)).value
  unfold tagBlock
  dsimp only
  rw [agree.leftover, agree.leftoverLength, agree.aadLength, agree.textLength, agree.preCounter,
    hash]

end

end Session

/-! ## Runs -/

/-- Everything but the backend is the same. -/
def Comparison.backends (Key : Type) [BlockCipher Key] : Comparison Key Key where
  bytes := Eq
  keys := Eq
  configs first second := first = { second with backend := first.backend }
  sessions := Session.Agree
  settings related := related
  aadLength agree := agree.aadLength
  textLength agree := agree.textLength
  start := by
    rintro key _ config other iv aad _ _ rfl _ ivs aads
    rw [List.forall₂_eq_eq_eq] at ivs aads
    subst ivs aads
    exact Session.agree_start key _ _ iv aad
  process := by
    rintro key _ session other data _ direction rfl agree texts
    rw [List.forall₂_eq_eq_eq] at texts ⊢
    subst texts
    exact Session.agree_process agree direction key data
  tagBlock := by
    rintro key _ session other rfl agree
    rw [List.forall₂_eq_eq_eq, Session.agree_tagBlock agree]

theorem Context.run_eq_of_backend {Key : Type} [BlockCipher Key] (key : Key) (config : Config)
    (backend other : Backend) (operations : List Operation) :
    let first := ((new key { config with backend }).run operations).value
    let second := ((new key { config with backend := other }).run operations).value
    first.1 = second.1 ∧ (Comparison.backends Key).Contexts first.2 second.2 := by
  have contexts : (Comparison.backends Key).Contexts (new key { config with backend })
      (new key { config with backend := other }) :=
    .new rfl rfl
  exact (Comparison.run_of_exact rfl contexts operations).value

/-! ## Whole messages -/

namespace Message

variable {Key : Type} [BlockCipher Key] (key : Key) (config : Config) (backend other : Backend)
  (direction : Direction) (iv aad : Bytes)

theorem mask_eq_of_backend (text : Bytes) :
    Message.mask ⟨key, { config with backend }, direction, iv, aad⟩ text =
      Message.mask ⟨key, { config with backend := other }, direction, iv, aad⟩ text := by
  have preCounter := preCounterBlock_eq_of_backend (BlockCipher.encrypt key Block.zero) backend
    other iv
  exact congrArg (Keystream.mask key · 0 text) preCounter

theorem tag_eq_of_backend (ciphertext : Bytes) :
    Message.tag ⟨key, { config with backend }, direction, iv, aad⟩ ciphertext =
      Message.tag ⟨key, { config with backend := other }, direction, iv, aad⟩ ciphertext := by
  have agree := Session.agree_start key backend other iv aad
  have hashed := ((agree.hash.absorbPadded ciphertext).absorbLengths (UInt64.ofNat aad.length * 8)
    (UInt64.ofNat ciphertext.length * 8)).value
  unfold tag preCounter hash initial
  dsimp only
  rw [agree.preCounter, hashed]

end Message

namespace Gcm

variable {Key : Type} [BlockCipher Key] (key : Key) (config : Config) (backend other : Backend)
  (iv aad : Bytes)

theorem encryptDetached_eq_of_backend (text : Bytes) :
    (encryptDetached ⟨key, { config with backend }⟩ iv aad text).value =
      (encryptDetached ⟨key, { config with backend := other }⟩ iv aad text).value := by
  rw [value_encryptDetached, value_encryptDetached]
  unfold message
  dsimp only
  rw [Message.mask_eq_of_backend key config backend other,
    Message.tag_eq_of_backend key config backend other]
  rfl

theorem decryptDetached_eq_of_backend (ciphertext tag : Bytes) :
    (decryptDetached ⟨key, { config with backend }⟩ iv aad ciphertext tag).value =
      (decryptDetached ⟨key, { config with backend := other }⟩ iv aad ciphertext tag).value := by
  rw [value_decryptDetached, value_decryptDetached]
  unfold message Message.verdict
  dsimp only
  rw [Message.mask_eq_of_backend key config backend other,
    Message.tag_eq_of_backend key config backend other]
  rfl

end Gcm

/-- The backend cannot be seen. The calls of any sequence have the same replies, and the contexts
hold the same after it, and so after each of its steps. Whole messages, pre-counter blocks and
hashes are the same as well, also if the lengths that are hashed are not those of the bytes. -/
theorem backend_is_unobservable {Key : Type} [BlockCipher Key] (key : Key) (config : Config)
    (backend other : Backend) :
    (∀ operations : List Operation,
      let first := ((Context.new key { config with backend }).run operations).value
      let second := ((Context.new key { config with backend := other }).run operations).value
      first.1 = second.1 ∧ first.2.phase = second.2.phase ∧
        first.2.direction = second.2.direction ∧
        Option.Rel Session.Agree first.2.session second.2.session ∧
        first.2.aadLength = second.2.aadLength ∧
        first.2.processedLength = second.2.processedLength) ∧
    (∀ iv aad text : Bytes,
      let first : Gcm Key := ⟨key, { config with backend }⟩
      let second : Gcm Key := ⟨key, { config with backend := other }⟩
      (first.encryptDetached iv aad text).value = (second.encryptDetached iv aad text).value ∧
        (first.encrypt iv aad text).value = (second.encrypt iv aad text).value ∧
        (first.decrypt iv aad text).value = (second.decrypt iv aad text).value ∧
        ∀ tag, (first.decryptDetached iv aad text tag).value =
          (second.decryptDetached iv aad text tag).value) ∧
    (∀ (subkey : Block) (iv : Bytes),
      preCounterBlock subkey backend iv = preCounterBlock subkey other iv) ∧
    (∀ (subkey : Block) (bytes : Bytes) (aadBits textBits : UInt64),
      GHash.digest subkey backend bytes aadBits textBits =
        GHash.digest subkey other bytes aadBits textBits) := by
  refine ⟨fun operations => ?_, fun iv aad text => ?_,
    fun subkey iv => preCounterBlock_eq_of_backend subkey backend other iv,
    fun subkey => GHash.digest_eq_of_backend subkey backend other⟩
  · intro first second
    rcases Context.run_eq_of_backend key config backend other operations with ⟨replies, contexts⟩
    exact ⟨replies, contexts.phase, contexts.direction, contexts.sessions, contexts.aadLength,
      contexts.processedLength⟩
  · intro first second
    have detached := Gcm.encryptDetached_eq_of_backend key config backend other iv aad text
    refine ⟨detached, ?_, ?_, Gcm.decryptDetached_eq_of_backend key config backend other iv aad text⟩
    · rw [Gcm.encrypt, Gcm.encrypt, Traced.value_bind, Traced.value_bind, detached]
    · unfold Gcm.decrypt
      dsimp only
      split
      · rfl
      · exact Gcm.decryptDetached_eq_of_backend key config backend other iv aad _ _

end GaloisCounter
