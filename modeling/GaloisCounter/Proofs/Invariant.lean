import GaloisCounter.Proofs.Situation

/-!
What a context holds, whatever was called before.

A session is there exactly while a message is open, and its fields are functions of what the message
was started with and of its ciphertext so far. So the branches for a missing session, one of which
would give text out unmasked, are dead.
-/

namespace GaloisCounter

theorem Phase.isOpen_iff (phase : Phase) :
    phase.isOpen ↔ phase = .aadAbsorbed ∨ phase = .streaming := by
  cases phase <;> simp [isOpen]

/-- The session is in the middle of a message that has come to a ciphertext. -/
structure Session.Represents [BlockCipher Key] (key : Key) (config : Config)
    (iv aad ciphertext : Bytes) (session : Session) : Prop where
  aadLength : session.aadLength.toNat = aad.length
  aadLimit : session.aadLength.toNat ≤ config.lengthLimit.maxAad
  textLength : session.textLength.toNat = ciphertext.length
  textLimit : session.textLength.toNat ≤ config.lengthLimit.maxMessage
  preCounter : session.preCounter =
    preCounterBlock (BlockCipher.encrypt key Block.zero) config.backend iv
  counter : session.counter.block =
    Counter.increment^[1 + (session.textLength.toNat + 15) / 16] session.preCounter
  hash : session.hash =
    ((GHash.start (BlockCipher.encrypt key Block.zero) config.backend).absorbPadded aad).absorbAll
      (Block.complete ciphertext)
  leftoverLength : session.leftoverLength = session.textLength.toNat % 16
  leftover : session.leftover.toList.take session.leftoverLength = Block.incomplete ciphertext
  keystream : 0 < session.leftoverLength →
    session.keystream = BlockCipher.encrypt key
      (Counter.increment^[(session.textLength.toNat + 15) / 16] session.preCounter)

namespace Message.Processing

variable {Key : Type} [BlockCipher Key] {message : Message Key} {since : List Exchange}
  {context : Context Key} {session : Session}

theorem toNat_textLength (processing : message.Processing since context)
    (present : context.session = some session) :
    session.textLength.toNat = (since.flatMap Exchange.text).length := by
  have length := Context.processedLength_of_openAt processing.openAt
  rwa [Context.processedLength, present] at length

theorem textLength_eq_zero_iff (processing : message.Processing since context)
    (present : context.session = some session) :
    session.textLength = 0 ↔ context.phase = .aadAbsorbed := by
  have length := processing.toNat_textLength present
  rw [processing.openAt.phase, ← UInt64.toNat_inj, length]
  change _ = 0 ↔ _
  rw [List.length_eq_zero_iff]
  split
  · next none => simp [none]
  · next some => simp [some]

theorem represents (processing : message.Processing since context)
    (present : context.session = some session) :
    session.Represents message.key message.config message.iv message.aad
      (message.direction.ciphertext (since.flatMap Exchange.text)
        (since.flatMap Exchange.output)) := by
  have text := processing.toNat_textLength present
  have aadValid := (Config.validateStart_eq_ok_iff.mp processing.valid).2
  rcases processing.openAt.session with ⟨other, otherPresent, reached, _⟩
  have same : other = session := Option.some.inj (otherPresent.symm.trans present)
  subst same
  have aadLength : other.aadLength.toNat = message.aad.length := by
    have fits : message.aad.length < UInt64.size :=
      Nat.lt_of_le_of_lt (Config.bitsFit_of_validateAad aadValid) (by decide)
    rw [reached.aadLength]
    exact UInt64.toNat_ofNat_of_lt' fits
  have length := message.length_ciphertext (since.flatMap Exchange.text)
  have preCounter := reached.preCounter
  rw [processing.output, ← Message.ciphertext]
  exact {
    aadLength := aadLength
    aadLimit := aadLength ▸ Config.length_le_of_validateAad aadValid
    textLength := text.trans length.symm
    textLimit := text ▸ processing.openAt.within
    preCounter := preCounter
    counter := by
      rw [reached.counter, length, ← text, ← preCounter, Nat.add_comm]
      rfl
    hash := reached.hash
    leftoverLength := by rw [reached.leftoverLength, length, text]
    leftover := reached.leftover
    keystream := by
      intro some
      have incomplete : (since.flatMap Exchange.text).length % 16 ≠ 0 := by
        rw [← length, ← reached.leftoverLength]
        omega
      rw [reached.keystream (by omega), length, text, ← preCounter,
        ← Keystream.begun_of_incomplete incomplete]
      rfl }

end Message.Processing

namespace Context

variable {Key : Type} [BlockCipher Key] {key : Key} {config : Config}
  {exchanges : List Exchange} {context : Context Key}

namespace Situation

theorem session_isSome_iff (situation : Situation key config exchanges context) :
    context.session.isSome ↔ context.phase.isOpen := by
  cases situation with
  | unstarted rejected => exact Iff.rfl
  | processing isOpen processing =>
      rcases processing.openAt.session with ⟨session, present, _⟩
      simp [present, isOpen_of_openAt processing.openAt]
  | closed all wasOpen concludes rejected => simp [closed_phase]

theorem direction_eq_none_iff (situation : Situation key config exchanges context) :
    context.direction = none ↔ context.phase = .init := by
  cases situation with
  | unstarted rejected => exact ⟨fun _ => rfl, fun _ => rfl⟩
  | processing isOpen processing =>
      rw [processing.openAt.direction, processing.openAt.phase]
      split <;> simp
  | closed all wasOpen concludes rejected =>
      dsimp only
      split <;> simp

end Situation

/-- Whatever calls and copies led to a context, it has a session exactly while a message is open,
and the session represents the message: with what it was started with, and with the ciphertext among
what was passed in and given out since then. Text and tags are never processed without a session. -/
theorem representation_invariant (key : Key) (config : Config) (exchanges : List Exchange)
    (context : Context Key) (leads : (new key config).Leads exchanges context) :
    (context.session.isSome ↔ context.phase = .aadAbsorbed ∨ context.phase = .streaming) ∧
    (context.direction = none ↔ context.phase = .init) ∧
    (∀ session, context.session = some session →
      ∃ direction iv aad since,
        Open exchanges direction iv aad since ∧
        context.direction = some direction ∧
        (session.textLength = 0 ↔ context.phase = .aadAbsorbed) ∧
        session.Represents key config iv aad
          (direction.ciphertext (since.flatMap Exchange.text) (since.flatMap Exchange.output))) ∧
    (∀ length, context.checkUpdate length = .ok () →
      context.session ≠ none ∧ context.direction ≠ none) ∧
    (∀ operation expected, context.checkFinalise operation expected = .ok () →
      context.session ≠ none) := by
  have situation := leads.situation
  have present (phase : context.phase.isOpen) : context.session ≠ none := by
    rw [← Option.isSome_iff_ne_none]
    exact situation.session_isSome_iff.mpr phase
  refine ⟨?_, situation.direction_eq_none_iff, ?_, ?_, ?_⟩
  · rw [situation.session_isSome_iff, Phase.isOpen_iff]
  · intro session some
    have phase : context.phase.isOpen := situation.session_isSome_iff.mp (by rw [some]; rfl)
    rcases situation.of_isOpen phase with ⟨direction, iv, aad, since, isOpen, processing⟩
    exact ⟨direction, iv, aad, since, isOpen, processing.openAt.direction,
      processing.textLength_eq_zero_iff some, processing.represents some⟩
  · intro length valid
    have phase := context.isOpen_of_checkUpdate valid
    refine ⟨present phase, fun none => ?_⟩
    rw [situation.direction_eq_none_iff.mp none] at phase
    cases phase
  · intro operation expected valid
    exact present ((context.checkFinalise_eq_ok_iff operation expected).mp valid).1

theorem representation_invariant_two_bytes :
    let first := new (id : Block → Block)
    let operations := [Operation.initialise .decrypt [1] [2], .updateInPlace [3, 4],
      .finaliseEncryption]
    let context := (first.run operations).value.2.copy
    context.checkUpdate 5 = .ok () ∧ context.session ≠ none ∧
      ∀ session, context.session = some session →
        session.leftoverLength = 2 ∧ session.keystream = Counter.increment session.preCounter ∧
        session.counter.block = Counter.increment (Counter.increment session.preCounter) := by
  intro first operations context
  have leads : first.Leads (first.exchanges operations) context :=
    (first.leads_run operations).copy
  have valid : context.checkUpdate 5 = .ok () := by decide +kernel
  have length : context.processedLength = 2 := by decide +kernel
  rcases representation_invariant id {} _ context leads with ⟨_, _, represents, dead, _⟩
  refine ⟨valid, (dead 5 valid).1, fun session present => ?_⟩
  rcases represents session present with ⟨_, _, _, _, _, _, _, holds⟩
  have two : session.textLength.toNat = 2 := by
    rw [processedLength, present] at length
    exact congrArg UInt64.toNat length
  have leftover := holds.leftoverLength
  have counter := holds.counter
  rw [two] at leftover counter
  refine ⟨leftover, ?_, counter⟩
  rw [holds.keystream (by omega), two]
  rfl

end Context

end GaloisCounter
