import GaloisCounter.Proofs.Bytewise
import GaloisCounter.Proofs.Shapes
import GaloisCounter.Proofs.Streaming

/-!
Stale bytes of the buffers.

The buffers of a session are not cleared from block to block. Bytes of an earlier block stay where
the incomplete block has not come to yet, and so does keystream that is used up. Contexts that
differ in such bytes only cannot be told apart by any calls, and cutting a text into pieces makes no
other difference.
-/

namespace GaloisCounter

theorem rel_and_iff {values : First → Second → Prop} {holds : First → Prop} {first : Option First}
    {second : Option Second} :
    Option.Rel (fun value other => values value other ∧ holds value) first second ↔
      Option.Rel values first second ∧ ∀ value, first = some value → holds value := by
  constructor
  · intro related
    cases related with
    | none => exact ⟨.none, fun _ impossible => nomatch impossible⟩
    | some both => exact ⟨.some both.1, fun _ same => Option.some.inj same ▸ both.2⟩
  · rintro ⟨related, all⟩
    cases related with
    | none => exact .none
    | some related => exact .some ⟨related, all _ rfl⟩

/-! ## What stays in the buffers -/

namespace Session

variable {Key : Type} [BlockCipher Key]

theorem leftover_process_block (session : Session) (fresh : session.leftoverLength = 0) (key : Key)
    (direction : Direction) (block : Block) :
    (session.process key direction block.toList).value.1.leftover = session.leftover := by
  have room : session.room = 0 := if_pos fresh
  rw [process_eq]
  change (session.processParts key direction block.toList).value.1.leftover = _
  rw [processParts, room, List.drop_zero, Block.complete_toList, Block.incomplete_toList, resume,
    if_pos fresh]
  rfl

theorem processParts_of_fresh (session : Session) (fresh : session.leftoverLength = 0) (key : Key)
    (direction : Direction) {data : Bytes} (short : data.length < 16) :
    session.processParts key direction data = session.begin key direction data := by
  have room : session.room = 0 := if_pos fresh
  rw [processParts, room, List.drop_zero, Block.complete_short short, Block.incomplete_short short,
    resume, if_pos fresh, nil_followedBy, processBlocks, nil_followedBy]

theorem processParts_of_begun (session : Session) (begun : session.leftoverLength ≠ 0) (key : Key)
    (direction : Direction) {data : Bytes} (within : session.leftoverLength + data.length ≤ 16) :
    session.processParts key direction data = pure (session.resume direction data) := by
  have room : session.room = 16 - session.leftoverLength := if_neg begun
  have rest : data.drop session.room = [] := List.drop_eq_nil_of_le (by omega)
  rw [processParts, rest, Block.complete_short (by decide), Block.incomplete_short (by decide)]
  change followedBy (followedBy (pure (session.resume direction data)) fun next => pure (next, []))
    (fun next => pure (next, [])) = _
  rw [followedBy_nil, followedBy_nil]

theorem leftover_absorbLeftover (session : Session) :
    session.absorbLeftover.leftover = session.leftover := by
  rw [absorbLeftover]
  split <;> rfl

theorem leftover_process_pieces (session : Session) (fresh : session.leftoverLength = 0) (key : Key)
    (byte : UInt8) (rest : Bytes) (whole : (byte :: rest).length = 16) :
    let begun := (session.process key .decrypt [byte]).value.1
    (begun.process key .decrypt rest).value.1.leftover = Block.ofBytes (byte :: rest) := by
  intro begun
  have begins : begun.leftoverLength = 1 ∧ begun.leftover = session.leftover.overwrite 0 [byte] := by
    have short : [byte].length < 16 := by
      rw [List.length_singleton]
      decide
    have first : begun = _ :=
      congrArg (fun result => result.value.1) (session.process_eq .decrypt [byte])
    rw [session.processParts_of_fresh fresh key .decrypt short] at first
    rw [first]
    constructor
    · exact congrArg (· + 1) fresh
    · exact congrArg (session.leftover.overwrite · [byte]) fresh
  have within : begun.leftoverLength + rest.length ≤ 16 := by
    rw [List.length_cons] at whole
    omega
  have notFresh : begun.leftoverLength ≠ 0 := by omega
  rw [process_eq]
  change (begun.processParts key .decrypt rest).value.1.leftover = _
  rw [begun.processParts_of_begun notFresh key .decrypt within, resume, if_neg notFresh]
  have all : rest.take begun.room = rest := by
    rw [room, if_neg notFresh]
    exact List.take_of_length_le (by rw [List.length_cons] at whole; omega)
  change (begun.maskPartial .decrypt (rest.take begun.room)).1.absorbLeftover.leftover = _
  rw [leftover_absorbLeftover, fst_maskPartial, all]
  change begun.leftover.overwrite begun.leftoverLength rest = _
  have joined := session.leftover.overwrite_append 0 [byte] rest
  rw [begins.1, begins.2, ← Block.overwrite_whole session.leftover whole]
  exact joined.symm

end Session

structure Operation.Splits (whole head tail : Operation) (first second : Bytes) : Prop where
  whole : whole.Feeds (first ++ second)
  head : head.Feeds first
  tail : tail.Feeds second
  headSome : first ≠ []
  tailSome : second ≠ []

namespace Context

variable {Key : Type}

/-! ## Similar contexts -/

/-- The contexts differ at most in bytes of the buffers that are not in use. -/
structure Similar (first second : Context Key) : Prop where
  key : first.key = second.key
  config : first.config = second.config
  phase : first.phase = second.phase
  direction : first.direction = second.direction
  sessions : Option.Rel Session.Similar first.session second.session

def LeftoverFits (context : Context Key) : Prop :=
  ∀ session, context.session = some session → session.leftoverLength ≤ 15

namespace Similar

theorem refl (context : Context Key) : context.Similar context where
  key := rfl
  config := rfl
  phase := rfl
  direction := rfl
  sessions := by
    cases context.session with
    | none => exact .none
    | some session => exact .some (.refl session)

theorem view_eq [BlockCipher Key] {first second : Context Key} (similar : first.Similar second) :
    first.view = second.view := by
  have shapes : (Comparison.shapes Key Key).Contexts first second := {
    keys := trivial
    configs := similar.config
    phase := similar.phase
    direction := similar.direction
    sessions := by
      have sessions := similar.sessions
      generalize first.session = session at sessions
      generalize second.session = other at sessions
      cases sessions with
      | none => exact .none
      | some sessions => exact .some ⟨sessions.aadLength, sessions.textLength⟩ }
  exact view_eq_of_shapes shapes

end Similar

end Context

variable {Key : Type} [BlockCipher Key]

/-- Bytes that are not in use may differ, and nothing else. -/
def Comparison.staleBytes (Key : Type) [BlockCipher Key] : Comparison Key Key where
  bytes := Eq
  keys := Eq
  configs := Eq
  sessions first second := first.Similar second ∧ first.leftoverLength ≤ 15
  settings := Config.eq_with_backend
  aadLength related := related.1.aadLength
  textLength related := related.1.textLength
  start := by
    rintro key _ config _ iv aad _ _ rfl rfl ivs aads
    rw [List.forall₂_eq_eq_eq] at ivs aads
    subst ivs aads
    exact ⟨.refl _, Nat.zero_le 15⟩
  process := by
    rintro key _ session other data _ direction rfl ⟨similar, fits⟩ texts
    rw [List.forall₂_eq_eq_eq] at texts ⊢
    subst texts
    rcases similar.process fits key direction data with ⟨results, sessions⟩
    exact ⟨⟨sessions, session.leftoverLength_process fits key direction data⟩, results.output⟩
  tagBlock := by
    rintro key _ session other rfl ⟨similar, _⟩
    rw [List.forall₂_eq_eq_eq, similar.tagBlock]

namespace Context

theorem contexts_staleBytes_iff {first second : Context Key} :
    (Comparison.staleBytes Key).Contexts first second ↔
      first.Similar second ∧ first.LeftoverFits := by
  constructor
  · intro contexts
    rcases rel_and_iff.mp contexts.sessions with ⟨sessions, fits⟩
    exact ⟨⟨contexts.keys, contexts.configs, contexts.phase, contexts.direction, sessions⟩, fits⟩
  · rintro ⟨similar, fits⟩
    exact ⟨similar.key, similar.config, similar.phase, similar.direction,
      rel_and_iff.mpr ⟨similar.sessions, fits⟩⟩

/-! ## Calls -/

structure Indistinct {Replies : Type} (first second : Traced (Replies × Context Key)) : Prop where
  replies : first.value.1 = second.value.1
  events : first.events = second.events
  calls : first.calls = second.calls
  similar : first.value.2.Similar second.value.2
  fits : first.value.2.LeftoverFits

section

variable {first second : Context Key} (similar : first.Similar second) (fits : first.LeftoverFits)

include similar fits

theorem calls_process_of_similar (data : Bytes) :
    (first.process data).calls = (second.process data).calls := by
  have sessions := similar.sessions
  have all := fits
  unfold LeftoverFits at all
  unfold process
  rw [similar.direction, similar.key]
  generalize first.session = session at sessions all
  generalize second.session = other at sessions
  cases sessions with
  | none => rfl
  | @some session other sessions =>
      cases second.direction with
      | none => rfl
      | some direction =>
          have results := (sessions.process (all session rfl) second.key direction data).1
          simp only [Traced.calls_bind, results.calls]
          rfl

theorem Accepts.calls_eq_of_similar {operation : Operation} {reply otherReply : Reply}
    {next otherNext : Context Key} {calls otherCalls : List Block}
    (accepts : first.Accepts operation reply next calls)
    (otherAccepts : second.Accepts operation otherReply otherNext otherCalls) :
    calls = otherCalls := by
  have tagBlock {session other : Session} (present : first.session = some session)
      (otherPresent : second.session = some other) :
      (session.tagBlock first.key).calls = (other.tagBlock second.key).calls := by
    have sessions := similar.sessions
    rw [present, otherPresent] at sessions
    cases sessions with
    | some sessions => rw [sessions.tagBlock, similar.key]
  cases accepts with
  | initialise valid =>
      cases otherAccepts with
      | initialise otherValid => rfl
  | update within valid =>
      cases otherAccepts with
      | update otherWithin otherValid => exact calls_process_of_similar similar fits _
  | updateInPlace valid =>
      cases otherAccepts with
      | updateInPlace otherValid => exact calls_process_of_similar similar fits _
  | finaliseEncryption isOpen direction present =>
      cases otherAccepts with
      | finaliseEncryption _ _ otherPresent => exact tagBlock present otherPresent
  | verified isOpen direction present sized verdict
  | failed isOpen direction present sized verdict =>
      cases otherAccepts with
      | verified _ _ otherPresent
      | failed _ _ otherPresent => exact tagBlock present otherPresent

theorem indistinct_perform (operation : Operation) :
    Indistinct (first.perform operation) (second.perform operation) := by
  have alike := Comparison.perform_of_exact rfl (contexts_staleBytes_iff.mpr ⟨similar, fits⟩)
    operation
  have replies : (first.perform operation).value.1 = (second.perform operation).value.1 :=
    Comparison.Replies.eq rfl alike.value.replies
  rcases contexts_staleBytes_iff.mp alike.value.contexts with ⟨nextSimilar, nextFits⟩
  refine ⟨replies, alike.events, ?_, nextSimilar, nextFits⟩
  rcases first.perform_cases operation with ⟨error, category, value, calls⟩ | accepts
  · rcases second.perform_cases operation with ⟨_, _, _, otherCalls⟩ | otherAccepts
    · rw [calls, otherCalls]
    · exact absurd ⟨error, by rw [← replies, value], category⟩ otherAccepts.not_rejected
  · rcases second.perform_cases operation with ⟨error, category, value, _⟩ | otherAccepts
    · exact absurd ⟨error, by rw [replies, value], category⟩ accepts.not_rejected
    · exact accepts.calls_eq_of_similar similar fits otherAccepts

end

theorem indistinct_run {first second : Context Key} (similar : first.Similar second)
    (fits : first.LeftoverFits) (operations : List Operation) :
    Indistinct (first.run operations) (second.run operations) := by
  -- Each call leaves similar contexts to the next.
  induction operations generalizing first second with
  | nil => exact ⟨rfl, rfl, rfl, similar, fits⟩
  | cons operation rest induction =>
      have step := indistinct_perform similar fits operation
      have last := induction step.similar step.fits
      exact {
        replies := congrArg₂ (· :: ·) step.replies last.replies
        events := by
          simp only [run, Traced.events_bind, Traced.events_pure, step.events, last.events]
        calls := by
          simp only [run, Traced.calls_bind, Traced.calls_pure, step.calls, last.calls]
        similar := last.similar
        fits := last.fits }

/-! ## Pieces -/

theorem process_of_absent {context : Context Key}
    (absent : context.session = none ∨ context.direction = none) (data : Bytes) :
    context.process data = pure (context, data) := by
  unfold process
  rcases absent with absent | absent
  · rw [absent]
  · rw [absent]
    cases context.session <;> rfl

theorem similar_process_append (context : Context Key) (fits : context.LeftoverFits)
    (first second : Bytes) :
    let whole := context.process (first ++ second)
    let head := context.process first
    let tail := head.value.1.process second
    whole.value.1.Similar tail.value.1 ∧ whole.value.2 = head.value.2 ++ tail.value.2 ∧
      whole.calls = head.calls ++ tail.calls := by
  intro whole head tail
  by_cases absent : context.session = none ∨ context.direction = none
  · have untouched := process_of_absent absent
    have all : whole = pure (context, first ++ second) := untouched _
    have begun : head = pure (context, first) := untouched first
    have ended : tail = pure (context, second) := by
      change head.value.1.process second = _
      rw [begun]
      exact untouched second
    rw [all, begun, ended]
    exact ⟨.refl context, rfl, rfl⟩
  · rcases not_or.mp absent with ⟨hasSession, hasDirection⟩
    rcases Option.ne_none_iff_exists'.mp hasSession with ⟨session, present⟩
    rcases Option.ne_none_iff_exists'.mp hasDirection with ⟨direction, directed⟩
    let begun := (session.process context.key direction first).value.1
    let between : Context Key := { context with session := some begun, phase := .streaming }
    have betweenPresent : between.session = some begun := rfl
    have betweenDirected : between.direction = some direction := directed
    rcases process_of_present present directed (first ++ second) with ⟨wholeValue, wholeCalls⟩
    rcases process_of_present present directed first with ⟨headValue, headCalls⟩
    rcases process_of_present betweenPresent betweenDirected second with ⟨tailValue, tailCalls⟩
    rcases session.similar_process_append (fits session present) context.key direction first second
      with ⟨results, sessions⟩
    have last : tail = between.process second := by
      change head.value.1.process second = _
      rw [headValue]
    rw [last, wholeValue, headValue, tailValue, wholeCalls, headCalls, tailCalls]
    refine ⟨⟨rfl, rfl, rfl, rfl, .some sessions⟩, results.output, ?_⟩
    rw [results.calls]
    simp [Session.followedBy, between, begun]

theorem checkUpdate_append_iff {context : Context Key} (hasSession : context.session ≠ none)
    (hasDirection : context.direction ≠ none) {first second : Bytes} (firstSome : first ≠ [])
    (secondSome : second ≠ []) :
    context.checkUpdate (first ++ second).length = .ok () ↔
      context.checkUpdate first.length = .ok () ∧
        (context.process first).value.1.checkUpdate second.length = .ok () := by
  rcases Option.ne_none_iff_exists'.mp hasSession with ⟨session, present⟩
  rcases Option.ne_none_iff_exists'.mp hasDirection with ⟨direction, directed⟩
  have firstLength := List.length_pos_iff.mpr firstSome
  have secondLength := List.length_pos_iff.mpr secondSome
  have limit := context.config.lengthLimit.maxMessage_le
  have before : context.processedLength = session.textLength := by
    rw [processedLength, present]
    rfl
  -- The limit is far from where the count of bytes would start again.
  have after (within : context.processedLength.toNat + first.length ≤
      context.config.lengthLimit.maxMessage) :
      (context.process first).value.1.processedLength.toNat =
        context.processedLength.toNat + first.length := by
    have size : UInt64.size = 18446744073709551616 := rfl
    have count : (context.process first).value.1.processedLength =
        session.textLength + UInt64.ofNat first.length := by
      rw [(process_of_present present directed first).1]
      exact session.count_process context.key direction first
    rw [count, ← before, UInt64.toNat_add, UInt64.toNat_ofNat_of_lt' (by omega)]
    exact Nat.mod_eq_of_lt (by omega)
  have phase : (context.process first).value.1.phase.isOpen := by
    rw [(process_of_present present directed first).1]
    rfl
  have config : (context.process first).value.1.config = context.config := by
    rw [(process_of_present present directed first).1]
  rw [checkUpdate_ok_iff, checkUpdate_ok_iff, checkUpdate_ok_iff, config, List.length_append]
  constructor
  · rintro ⟨isOpen, _, within⟩
    refine ⟨⟨isOpen, by omega, by omega⟩, phase, by omega, ?_⟩
    rw [after (by omega)]
    omega
  · rintro ⟨⟨isOpen, _, firstWithin⟩, _, _, within⟩
    rw [after firstWithin] at within
    exact ⟨isOpen, by omega, by omega⟩

section

variable {context : Context Key} {whole head tail : Operation} {first second : Bytes}
  (splits : whole.Splits head tail first second)

include splits

theorem accepted_whole_iff (hasSession : context.session ≠ none)
    (hasDirection : context.direction ≠ none) :
    let begun := context.perform head
    ¬Rejected (context.perform whole).value.1.answer ↔
      ¬Rejected begun.value.1.answer ∧ ¬Rejected (begun.value.2.perform tail).value.1.answer := by
  intro begun
  have pieces := checkUpdate_append_iff hasSession hasDirection splits.headSome splits.tailSome
  rw [accepted_iff_checkUpdate splits.whole, accepted_iff_checkUpdate splits.head,
    accepted_iff_checkUpdate splits.tail, pieces]
  refine and_congr_right fun valid => ?_
  rw [(perform_of_feeds splits.head valid).1]

section

variable (fits : context.LeftoverFits)
  (headAccepted : ¬Rejected (context.perform head).value.1.answer)
  (tailAccepted : ¬Rejected ((context.perform head).value.2.perform tail).value.1.answer)

include fits headAccepted tailAccepted

theorem joined_pieces (accepted : ¬Rejected (context.perform whole).value.1.answer) :
    let once := context.perform whole
    let begun := context.perform head
    let ended := begun.value.2.perform tail
    once.value.2.Similar ended.value.2 ∧
      Exchange.output ⟨whole, once.value.1⟩ =
        Exchange.output ⟨head, begun.value.1⟩ ++ Exchange.output ⟨tail, ended.value.1⟩ ∧
      once.calls = begun.calls ++ ended.calls := by
  rcases perform_of_feeds splits.whole ((accepted_iff_checkUpdate splits.whole).mp accepted) with
    ⟨next, output, calls⟩
  rcases perform_of_feeds splits.head ((accepted_iff_checkUpdate splits.head).mp headAccepted) with
    ⟨headNext, headOutput, headCalls⟩
  rcases perform_of_feeds splits.tail ((accepted_iff_checkUpdate splits.tail).mp tailAccepted) with
    ⟨tailNext, tailOutput, tailCalls⟩
  dsimp only
  rw [next, output, calls, tailNext, tailOutput, tailCalls, headOutput, headCalls, headNext]
  exact context.similar_process_append fits first second

/-- The whole of a text leads where its accepted pieces lead. Without a session it may be refused
where they are not, but then none of the calls does anything. -/
theorem similar_pieces :
    (context.perform whole).value.2.Similar
      ((context.perform head).value.2.perform tail).value.2 := by
  by_cases accepted : Rejected (context.perform whole).value.1.answer
  · have absent : context.session = none ∨ context.direction = none := by
      by_contra present
      rcases not_or.mp present with ⟨hasSession, hasDirection⟩
      exact (accepted_whole_iff splits hasSession hasDirection).mpr ⟨headAccepted, tailAccepted⟩
        accepted
    have headNext : (context.perform head).value.2 = context := by
      have valid := (accepted_iff_checkUpdate splits.head).mp headAccepted
      rw [(perform_of_feeds splits.head valid).1, process_of_absent absent]
      rfl
    rw [headNext] at tailAccepted ⊢
    have tailNext : (context.perform tail).value.2 = context := by
      have valid := (accepted_iff_checkUpdate splits.tail).mp tailAccepted
      rw [(perform_of_feeds splits.tail valid).1, process_of_absent absent]
      rfl
    have next : (context.perform whole).value.2 = context := by
      rcases context.perform_cases whole with ⟨_, _, value, _⟩ | accepts
      · rw [value]
      · exact absurd accepted accepts.not_rejected
    rw [next, tailNext]
    exact .refl context
  · exact (joined_pieces splits fits headAccepted tailAccepted accepted).1

end

end

theorem next_of_feeds {context : Context Key} {session : Session} {direction : Direction}
    {operation : Operation} {chunk : Bytes} (present : context.session = some session)
    (directed : context.direction = some direction) (feeds : operation.Feeds chunk)
    (accepted : ¬Rejected (context.perform operation).value.1.answer) :
    (context.perform operation).value.2 =
      { context with
        session := some (session.process context.key direction chunk).value.1
        phase := .streaming } := by
  have valid := (accepted_iff_checkUpdate feeds).mp accepted
  rw [(perform_of_feeds feeds valid).1, (process_of_present present directed chunk).1]

/-- The first bytes of a buffer tell whether a block came at once, although nothing depends on
them. -/
theorem exists_pieces_apart (key : Key) :
    ∃ (operations : List Operation) (whole head tail : Operation) (first second : Bytes),
      whole.Splits head tail first second ∧
        let context := ((new key).run operations).value.2
        let once := context.perform whole
        let begun := context.perform head
        let ended := begun.value.2.perform tail
        ¬Rejected once.value.1.answer ∧ ¬Rejected begun.value.1.answer ∧
          ¬Rejected ended.value.1.answer ∧ once.value.2 ≠ ended.value.2 := by
  let block : Block := Vector.replicate 16 1
  let rest : Bytes := List.replicate 15 1
  have splits : (Operation.updateInPlace block.toList).Splits (.updateInPlace [1])
      (.updateInPlace rest) [1] rest :=
    ⟨.updateInPlace, .updateInPlace, .updateInPlace, List.cons_ne_nil _ _, List.cons_ne_nil _ _⟩
  refine ⟨[.initialise .decrypt [1] [2]], _, _, _, _, _, splits, ?_⟩
  intro context once begun ended
  let session := (Session.start key ({} : Config).backend [1] [2]).value
  have present : context.session = some session := rfl
  have directed : context.direction = some .decrypt := rfl
  have fresh : session.leftoverLength = 0 := rfl
  have valid : context.checkUpdate block.toList.length = .ok () := rfl
  have accepted := (accepted_iff_checkUpdate splits.whole).mpr valid
  have pieces := (accepted_whole_iff splits (by simp [present]) (by simp [directed])).mp accepted
  refine ⟨accepted, pieces.1, pieces.2, ?_⟩
  intro same
  have atOnce := next_of_feeds present directed splits.whole accepted
  have inPart := next_of_feeds present directed splits.head pieces.1
  have inPieces := next_of_feeds (congrArg Context.session inPart)
    ((congrArg Context.direction inPart).trans directed) splits.tail pieces.2
  -- In the direction of decryption the buffer holds what arrives.
  have buffers := congrArg (fun context => context.session.map Session.leftover) same
  rw [atOnce, inPieces, inPart] at buffers
  have equal : Block.zero = Block.ofBytes (1 :: rest) := by
    calc Block.zero
        = (session.process key .decrypt block.toList).value.1.leftover :=
          (session.leftover_process_block fresh key .decrypt block).symm
      _ = ((session.process key .decrypt [1]).value.1.process key .decrypt rest).value.1.leftover :=
          Option.some.inj buffers
      _ = Block.ofBytes (1 :: rest) := session.leftover_process_pieces fresh key 1 rest rfl
  exact absurd equal (by decide)

/-- Stale bytes of the buffers never matter. Similar contexts reply alike to every call and are
similar again, so no calls tell them apart, nor does anything that can be asked of a context. The
contexts that calls lead to are among those of which this is said. A text that is processed at once
leads where its pieces lead, with the same output and the same inputs to the cipher, but the two
contexts need not be equal. -/
theorem stale_bytes_never_matter (Key : Type) [BlockCipher Key] :
    (∀ first second : Context Key, first.Similar second → first.LeftoverFits →
      (∀ operation, Indistinct (first.perform operation) (second.perform operation)) ∧
      ∀ operations,
        let one := first.run operations
        let other := second.run operations
        Indistinct one other ∧ one.value.2.view = other.value.2.view) ∧
    (∀ (key : Key) (config : Config) (operations : List Operation),
      ((new key config).run operations).value.2.LeftoverFits) ∧
    (∀ (context : Context Key) (whole head tail : Operation) (first second : Bytes),
      context.LeftoverFits → whole.Splits head tail first second →
      let once := context.perform whole
      let begun := context.perform head
      let ended := begun.value.2.perform tail
      (context.session ≠ none → context.direction ≠ none →
        (¬Rejected once.value.1.answer ↔
          ¬Rejected begun.value.1.answer ∧ ¬Rejected ended.value.1.answer)) ∧
      (¬Rejected begun.value.1.answer → ¬Rejected ended.value.1.answer →
        once.value.2.Similar ended.value.2 ∧
        (¬Rejected once.value.1.answer →
          Exchange.output ⟨whole, once.value.1⟩ =
              Exchange.output ⟨head, begun.value.1⟩ ++ Exchange.output ⟨tail, ended.value.1⟩ ∧
            once.calls = begun.calls ++ ended.calls))) ∧
    ∀ key : Key, ∃ (operations : List Operation) (whole head tail : Operation)
      (first second : Bytes), whole.Splits head tail first second ∧
        let context := ((new key).run operations).value.2
        let once := context.perform whole
        let begun := context.perform head
        let ended := begun.value.2.perform tail
        ¬Rejected once.value.1.answer ∧ ¬Rejected begun.value.1.answer ∧
          ¬Rejected ended.value.1.answer ∧ once.value.2 ≠ ended.value.2 := by
  refine ⟨fun first second similar fits => ⟨indistinct_perform similar fits, ?_⟩, ?_, ?_,
    exists_pieces_apart⟩
  · intro operations one other
    have indistinct := indistinct_run similar fits operations
    exact ⟨indistinct, indistinct.similar.view_eq⟩
  · intro key config operations
    have fits : (new key config).LeftoverFits := fun _ impossible => nomatch impossible
    exact (indistinct_run (.refl _) fits operations).fits
  · intro context whole head tail first second fits splits once begun ended
    refine ⟨accepted_whole_iff splits, fun headAccepted tailAccepted =>
      ⟨similar_pieces splits fits headAccepted tailAccepted, fun accepted => ?_⟩⟩
    exact (joined_pieces splits fits headAccepted tailAccepted accepted).2

theorem stale_bytes_never_matter_one_block :
    let context := ((new (id : Block → Block)).run [.initialise .decrypt [1] [2]]).value.2
    let rest : Bytes := List.replicate 15 1
    let once := (context.perform (.updateInPlace (1 :: rest))).value.2
    let begun := (context.perform (.updateInPlace [1])).value.2
    let ended := (begun.perform (.updateInPlace rest)).value.2
    let more := [Operation.update [3, 4] [5, 6, 7], .finaliseDecryption (List.replicate 16 8)]
    once.session.map Session.leftover ≠ ended.session.map Session.leftover ∧
      once.Similar ended ∧ once.LeftoverFits ∧ Indistinct (once.run more) (ended.run more) := by
  intro context rest once begun ended more
  rcases stale_bytes_never_matter (Block → Block) with ⟨similar, fits, pieces, _⟩
  have contextFits : context.LeftoverFits := fits id {} [.initialise .decrypt [1] [2]]
  have onceFits : once.LeftoverFits :=
    fits id {} [.initialise .decrypt [1] [2], .updateInPlace (1 :: rest)]
  have splits : (Operation.updateInPlace (1 :: rest)).Splits (.updateInPlace [1])
      (.updateInPlace rest) [1] rest :=
    ⟨.updateInPlace, .updateInPlace, .updateInPlace, List.cons_ne_nil _ _, List.cons_ne_nil _ _⟩
  have alike : once.Similar ended :=
    ((pieces context _ _ _ _ _ contextFits splits).2 (by decide +kernel) (by decide +kernel)).1
  exact ⟨by decide +kernel, alike, onceFits, ((similar once ended alike onceFits).2 more).1⟩

end Context

end GaloisCounter
