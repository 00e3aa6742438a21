import GaloisCounter.Proofs.Encoding
import GaloisCounter.Proofs.Guarded
import GaloisCounter.Proofs.Invariant

/-!
No number overflows and no position is out of range.

Whatever calls led to a context, every guard of every further call holds, so the guarded calls do
what the calls do. The limits on lengths, which are checked when a message is started and before
text is processed, leave room for the numbers of bits that are hashed.
-/

namespace GaloisCounter

theorem Bytes.bits_lt_of_bitsFit {bytes : Bytes} (fit : BitsFit bytes) :
    bytes.length * 8 < UInt64.size := by
  -- The limit is the largest number of bytes whose number of bits is below 2^64.
  have bound : bytes.length ≤ 2305843009213693951 := fit
  have size : UInt64.size = 18446744073709551616 := rfl
  omega

/-! ## Guarded checks -/

namespace Config

def validateIvGuarded (config : Config) (iv : Bytes) : Option (Except Error Unit) :=
  if iv.isEmpty then
    return .error (.zeroLength "iv")
  else if config.ivPolicy = .standardOnly ∧ iv.length ≠ 12 then
    return .error (.ivNotStandard iv.length)
  else do
    let length ← Guarded.word iv.length
    if length.toNat > maxIv then
      return .error (.ivTooLong iv.length)
    else
      return .ok ()

def validateAadGuarded (config : Config) (aad : Bytes) : Option (Except Error Unit) :=
  if aad.isEmpty ∧ config.aadPolicy = .required then
    return .error (.zeroLength "aad")
  else do
    let length ← Guarded.word aad.length
    if length.toNat > config.lengthLimit.maxAad then
      return .error (.aadTooLong config.lengthLimit.maxAad aad.length)
    else
      return .ok ()

/-- A total that does not fit is over the limit. -/
def validateTextGuarded (config : Config) (processed : UInt64) (additional : Nat) :
    Option (Except Error Unit) := do
  let limit := config.lengthLimit
  let length ← Guarded.word additional
  if length.toNat > limit.maxUpdate then
    return .error (.updateTooLong limit.maxUpdate additional)
  else
    let tooLong := Error.messageTooLong limit.maxMessage processed.toNat additional
    match Guarded.word (processed.toNat + length.toNat) with
    | some total => return if total.toNat ≤ limit.maxMessage then .ok () else .error tooLong
    | none => return .error tooLong

theorem validateIvGuarded_eq (config : Config) {iv : Bytes} (short : iv.length < UInt64.size) :
    config.validateIvGuarded iv = some (config.validateIv iv) := by
  have length := Guarded.word_of_fits short
  rw [validateIvGuarded, validateIv, length, Option.bind_eq_bind, Option.bind_some,
    Guarded.word_eq_some_iff.mp length]
  split
  · rfl
  · split
    · rfl
    · split <;> rfl

theorem validateAadGuarded_eq (config : Config) {aad : Bytes} (short : aad.length < UInt64.size) :
    config.validateAadGuarded aad = some (config.validateAad aad) := by
  have length := Guarded.word_of_fits short
  rw [validateAadGuarded, validateAad, length, Option.bind_eq_bind, Option.bind_some,
    Guarded.word_eq_some_iff.mp length]
  split
  · rfl
  · split <;> rfl

theorem validateTextGuarded_eq (config : Config) (processed : UInt64) {additional : Nat}
    (short : additional < UInt64.size) :
    config.validateTextGuarded processed additional =
      some (config.validateText processed additional) := by
  have limit := config.lengthLimit.maxMessage_le
  have length := Guarded.word_of_fits short
  rw [validateTextGuarded, validateText, length, Option.bind_eq_bind, Option.bind_some,
    Guarded.word_eq_some_iff.mp length]
  split
  · rfl
  · cases total : Guarded.word (processed.toNat + additional) with
    | some sum =>
        have value := Guarded.word_eq_some_iff.mp total
        dsimp only
        rw [value]
        by_cases within : processed.toNat + additional ≤ config.lengthLimit.maxMessage
        · rw [if_pos within, if_neg (Nat.not_lt.mpr within)]
          rfl
        · rw [if_neg within, if_pos (Nat.lt_of_not_le within)]
          rfl
    | none =>
        -- A total of 2^64 or more is over either limit.
        have beyond := Guarded.word_eq_none_iff.mp total
        have size : UInt64.size = 18446744073709551616 := rfl
        have above : processed.toNat + additional > config.lengthLimit.maxMessage := by omega
        rw [if_pos above]
        rfl

end Config

namespace Tag

def ofBlockGuarded (block : Block) (length : TagLength) : Option Tag := do
  let bytes ← Guarded.slice block.toList 0 length.bytes
  if sized : bytes.length = length.bytes then
    return { length, bytes, sized }
  else
    none

def verifyBlockGuarded (block : Block) (received : Bytes) : Option Bool :=
  if received.isEmpty ∨ received.length > 16 then
    return false
  else do
    let front ← Guarded.slice block.toList 0 received.length
    return received == front

theorem ofBlockGuarded_eq (block : Block) (length : TagLength) :
    ofBlockGuarded block length = some (ofBlock block length) := by
  have inside : length.bytes ≤ block.toList.length := by
    rw [Block.length_toList]
    exact length.atMost
  have sized : (block.toList.take length.bytes).length = length.bytes :=
    List.length_take_of_le inside
  rw [ofBlockGuarded, Guarded.slice_front inside, Option.bind_eq_bind, Option.bind_some,
    dif_pos sized]
  rfl

theorem verifyBlockGuarded_eq (block : Block) (received : Bytes) :
    verifyBlockGuarded block received = some (verifyBlock block received) := by
  rw [verifyBlockGuarded, verifyBlock]
  split
  · next odd =>
    have refused : (!received.isEmpty && received.isPrefixOf block.toList) = false := by
      rcases odd with empty | long
      · rw [empty]
        rfl
      · rw [Bool.and_eq_false_iff]
        right
        rw [Bool.eq_false_iff]
        intro isPrefixOf
        have shorter := (List.isPrefixOf_iff_prefix.mp isPrefixOf).length_le
        rw [Block.length_toList] at shorter
        omega
    rw [refused]
    rfl
  · next proper =>
    rcases not_or.mp proper with ⟨some, short⟩
    have inside : received.length ≤ block.toList.length := by
      rw [Block.length_toList]
      exact Nat.le_of_not_lt short
    have same : (received == block.toList.take received.length) =
        received.isPrefixOf block.toList := by
      rw [Bool.eq_iff_iff, beq_iff_eq, List.isPrefixOf_iff_prefix, List.prefix_iff_eq_take]
    rw [Guarded.slice_front inside, Option.bind_eq_bind, Option.bind_some, same,
      Bool.eq_false_iff.mpr some, Bool.not_false, Bool.true_and]
    rfl

end Tag

/-! ## Guarded calls -/

namespace Context

variable {Key : Type}

def checkUpdateGuarded (context : Context Key) (length : Nat) : Option (Except Error Unit) :=
  if !context.phase.isOpen then
    return .error (.invalidPhase "update" context.phase.name)
  else if length = 0 then
    return .error (.zeroLength "input")
  else
    context.config.validateTextGuarded context.processedLength length

theorem checkUpdateGuarded_eq (context : Context Key) {length : Nat}
    (short : length < UInt64.size) :
    context.checkUpdateGuarded length = some (context.checkUpdate length) := by
  rw [checkUpdateGuarded, checkUpdate, context.config.validateTextGuarded_eq _ short]
  split
  · rfl
  · split <;> rfl

variable [BlockCipher Key]

def initialiseGuarded (context : Context Key) (direction : Direction) (iv aad : Bytes) :
    Option (Outcome Key Unit) := do
  let config := context.config
  match ← config.validateIvGuarded iv with
  | .error error => return { answer := .error error, context }
  | .ok () =>
      match ← config.validateAadGuarded aad with
      | .error error => return { answer := .error error, context }
      | .ok () =>
          let session ← Session.startGuarded context.key config.backend iv aad
          return {
            answer := .ok ()
            context := { context with
              session := some session
              direction := some direction
              phase := .aadAbsorbed } }

def processGuarded (context : Context Key) (data : Bytes) : Option (Context Key × Bytes) :=
  match context.session, context.direction with
  | some session, some direction => do
      let (session, output) ← session.processGuarded context.key direction data
      return ({ context with session := some session, phase := .streaming }, output)
  | _, _ => return (context, data)

def updateGuarded (context : Context Key) (input output : Bytes) :
    Option (BufferOutcome Key Nat) :=
  if output.length < input.length then
    let error := Error.outputTooSmall "output" input.length output.length
    return { answer := .error error, context, buffer := output }
  else do
    match ← context.checkUpdateGuarded input.length with
    | .error error => return { answer := .error error, context, buffer := output }
    | .ok () =>
        -- The input is copied over the front of the output and processed there.
        let _ ← Guarded.slice output 0 input.length
        let (context, written) ← context.processGuarded input
        return {
          answer := .ok input.length
          context
          buffer := written ++ output.drop input.length }

def updateInPlaceGuarded (context : Context Key) (buffer : Bytes) :
    Option (BufferOutcome Key Unit) := do
  match ← context.checkUpdateGuarded buffer.length with
  | .error error => return { answer := .error error, context, buffer }
  | .ok () =>
      let (context, buffer) ← context.processGuarded buffer
      return { answer := .ok (), context, buffer }

def finaliseEncryptionGuarded (context : Context Key) : Option (Outcome Key Tag) :=
  let operation := "finalize_encryption"
  match context.checkFinalise operation .encrypt with
  | .error error => return { answer := .error error, context }
  | .ok () =>
      match context.session with
      | none => return { answer := .error (.invalidPhase operation context.phase.name), context }
      | some session => do
          let block ← session.tagBlockGuarded context.key
          let tag ← Tag.ofBlockGuarded block context.config.tagLength
          return {
            answer := .ok tag
            context := { context with session := none, phase := .finalised } }

def finaliseDecryptionGuarded (context : Context Key) (tag : Bytes) : Option (Outcome Key Unit) :=
  let operation := "finalize_decryption"
  match context.checkFinalise operation .decrypt with
  | .error error => return { answer := .error error, context }
  | .ok () =>
      match (context.checkTagLength tag.length).value with
      | .error error => return { answer := .error error, context }
      | .ok () =>
          match context.session with
          | none =>
              return { answer := .error (.invalidPhase operation context.phase.name), context }
          | some session => do
              let block ← session.tagBlockGuarded context.key
              if ← Tag.verifyBlockGuarded block tag then
                return {
                  answer := .ok ()
                  context := { context with session := none, phase := .finalised } }
              else
                return {
                  answer := .error (.notAuthentic operation "tag mismatch")
                  context := { context with session := none, phase := .failed } }

def performGuarded (context : Context Key) : Operation → Option (Reply × Context Key)
  | .initialise direction iv aad => do
      let outcome ← context.initialiseGuarded direction iv aad
      return outcome.reply (fun _ => .done) []
  | .update input output => do
      let outcome ← context.updateGuarded input output
      return outcome.reply .written outcome.buffer
  | .updateInPlace buffer => do
      let outcome ← context.updateInPlaceGuarded buffer
      return outcome.reply (fun _ => .done) outcome.buffer
  | .finaliseEncryption => do
      let outcome ← context.finaliseEncryptionGuarded
      return outcome.reply .sealed []
  | .finaliseDecryption tag => do
      let outcome ← context.finaliseDecryptionGuarded tag
      return outcome.reply (fun _ => .done) []

def runGuarded (context : Context Key) : List Operation → Option (List Reply × Context Key)
  | [] => return ([], context)
  | operation :: rest => do
      let (reply, next) ← context.performGuarded operation
      let (replies, last) ← next.runGuarded rest
      return (reply :: replies, last)

theorem initialiseGuarded_eq (context : Context Key) (direction : Direction) {iv aad : Bytes}
    (ivShort : iv.length < UInt64.size) (aadShort : aad.length < UInt64.size) :
    context.initialiseGuarded direction iv aad =
      some (context.initialise direction iv aad).value := by
  rw [initialiseGuarded, context.config.validateIvGuarded_eq ivShort]
  cases ivChecked : context.config.validateIv iv with
  | error error =>
      have rejected : context.config.validateStart iv aad = .error error := by
        rw [Config.validateStart, ivChecked]
        rfl
      rw [initialise_of_error rejected]
      rfl
  | ok _ =>
      have start : context.config.validateStart iv aad = context.config.validateAad aad := by
        rw [Config.validateStart, ivChecked]
        rfl
      dsimp only [Option.bind_eq_bind, Option.bind_some]
      rw [context.config.validateAadGuarded_eq aadShort, Option.bind_some]
      cases aadChecked : context.config.validateAad aad with
      | error error =>
          rw [initialise_of_error (start.trans aadChecked)]
          rfl
      | ok _ =>
          have ivFits := Bytes.bits_lt_of_bitsFit (Config.bitsFit_of_validateIv ivChecked)
          dsimp only
          rw [Session.startGuarded_eq _ _ ivFits aadShort,
            (initialise_of_valid (start.trans aadChecked)).1]
          rfl

section

variable {context : Context Key} (bounds : ∀ session ∈ context.session, session.InBounds)

include bounds

theorem processGuarded_eq {data : Bytes} (valid : context.checkUpdate data.length = .ok ()) :
    context.processGuarded data = some (context.process data).value := by
  have limit := context.config.lengthLimit.maxMessage_le
  have within := ((context.checkUpdate_ok_iff data.length).mp valid).2.2
  cases present : context.session with
  | none =>
      rw [processGuarded, process, present]
      rfl
  | some session =>
      cases directed : context.direction with
      | none =>
          rw [processGuarded, process, present, directed]
          rfl
      | some direction =>
          have counted : session.textLength.toNat + data.length < UInt64.size := by
            rw [processedLength, present] at within
            exact Nat.lt_of_le_of_lt (Nat.le_trans within limit) (by decide)
          have guarded := session.processGuarded_eq context.key direction
            (bounds session present).leftoverLength counted
          rw [processGuarded, present, directed, (process_of_present present directed data).1]
          dsimp only
          rw [guarded, directed]
          rfl

theorem updateGuarded_eq {input : Bytes} (output : Bytes) (short : input.length < UInt64.size) :
    context.updateGuarded input output = some (context.update input output).value := by
  rw [updateGuarded, update, context.checkUpdateGuarded_eq short]
  split
  · rfl
  · next fits =>
    cases checked : context.checkUpdate input.length with
    | error error => rfl
    | ok _ =>
        dsimp only [Option.bind_eq_bind, Option.bind_some]
        rw [Guarded.slice_front (Nat.le_of_not_lt fits), Option.bind_some,
          processGuarded_eq bounds checked]
        rfl

theorem updateInPlaceGuarded_eq {buffer : Bytes} (short : buffer.length < UInt64.size) :
    context.updateInPlaceGuarded buffer = some (context.updateInPlace buffer).value := by
  rw [updateInPlaceGuarded, updateInPlace, context.checkUpdateGuarded_eq short]
  cases checked : context.checkUpdate buffer.length with
  | error error => rfl
  | ok _ =>
      dsimp only [Option.bind_eq_bind, Option.bind_some]
      rw [processGuarded_eq bounds checked]
      rfl

theorem finaliseEncryptionGuarded_eq :
    context.finaliseEncryptionGuarded = some context.finaliseEncryption.value := by
  rw [finaliseEncryptionGuarded, finaliseEncryption]
  cases context.checkFinalise "finalize_encryption" .encrypt with
  | error error => rfl
  | ok _ =>
      cases present : context.session with
      | none => rfl
      | some session =>
          dsimp only
          rw [session.tagBlockGuarded_eq (bounds session present), Option.bind_eq_bind,
            Option.bind_some, Tag.ofBlockGuarded_eq]
          rfl

theorem finaliseDecryptionGuarded_eq (tag : Bytes) :
    context.finaliseDecryptionGuarded tag = some (context.finaliseDecryption tag).value := by
  rw [finaliseDecryptionGuarded, finaliseDecryption]
  cases context.checkFinalise "finalize_decryption" .decrypt with
  | error error => rfl
  | ok _ =>
      dsimp only
      rw [Traced.value_bind]
      cases (context.checkTagLength tag.length).value with
      | error error => rfl
      | ok _ =>
          cases present : context.session with
          | none => rfl
          | some session =>
              dsimp only
              rw [session.tagBlockGuarded_eq (bounds session present), Option.bind_eq_bind,
                Option.bind_some, Tag.verifyBlockGuarded_eq, Option.bind_eq_bind,
                Option.bind_some, Traced.value_bind]
              split <;> rfl

end

end Context

/-! ## Runs -/

namespace Operation

def arguments : Operation → List Bytes
  | .initialise _ iv aad => [iv, aad]
  | .update input output => [input, output]
  | .updateInPlace buffer => [buffer]
  | .finaliseEncryption => []
  | .finaliseDecryption tag => [tag]

/-- A byte string in memory is shorter than half of the address space. -/
def Addressable (operation : Operation) : Prop :=
  ∀ argument ∈ operation.arguments, argument.length < 2 ^ 63

instance (operation : Operation) : Decidable operation.Addressable :=
  inferInstanceAs (Decidable (∀ argument ∈ operation.arguments, argument.length < 2 ^ 63))

theorem Addressable.fits {operation : Operation} (addressable : operation.Addressable)
    {argument : Bytes} (passed : argument ∈ operation.arguments) :
    argument.length < UInt64.size :=
  Nat.lt_trans (addressable argument passed) (by decide)

end Operation

namespace Context

variable {Key : Type} [BlockCipher Key]

theorem performGuarded_eq {context : Context Key}
    (bounds : ∀ session ∈ context.session, session.InBounds) {operation : Operation}
    (addressable : operation.Addressable) :
    context.performGuarded operation = some (context.perform operation).value := by
  cases operation with
  | initialise direction iv aad =>
      have ivShort := addressable.fits (List.mem_cons_self : iv ∈ [iv, aad])
      have aadShort := addressable.fits
        (List.mem_cons_of_mem iv List.mem_cons_self : aad ∈ [iv, aad])
      rw [performGuarded, context.initialiseGuarded_eq direction ivShort aadShort]
      rfl
  | update input output =>
      have short := addressable.fits (List.mem_cons_self : input ∈ [input, output])
      rw [performGuarded, updateGuarded_eq bounds output short]
      rfl
  | updateInPlace buffer =>
      have short := addressable.fits (List.mem_cons_self : buffer ∈ [buffer])
      rw [performGuarded, updateInPlaceGuarded_eq bounds short]
      rfl
  | finaliseEncryption =>
      rw [performGuarded, finaliseEncryptionGuarded_eq bounds]
      rfl
  | finaliseDecryption tag =>
      rw [performGuarded, finaliseDecryptionGuarded_eq bounds tag]
      rfl

section

variable {key : Key} {config : Config} {exchanges : List Exchange} {context : Context Key}
  (leads : (new key config).Leads exchanges context)

include leads

theorem inBounds_of_leads : ∀ session ∈ context.session, session.InBounds := by
  intro session present
  have isOpen : context.phase.isOpen := by
    rw [← leads.situation.session_isSome_iff, present]
    rfl
  rcases leads.situation.of_isOpen isOpen with ⟨direction, iv, aad, since, _, processing⟩
  have represents := processing.represents present
  have aadLimit : session.aadLength.toNat ≤ 2305843009213693951 :=
    Nat.le_trans represents.aadLimit config.lengthLimit.maxAad_le
  have textLimit : session.textLength.toNat ≤ 68719476704 :=
    Nat.le_trans represents.textLimit config.lengthLimit.maxMessage_le
  have leftoverLength := represents.leftoverLength
  have size : UInt64.size = 18446744073709551616 := rfl
  constructor <;> omega

theorem runGuarded_eq {operations : List Operation}
    (addressable : ∀ operation ∈ operations, operation.Addressable) :
    context.runGuarded operations = some (context.run operations).value := by
  -- Each call leads to a context whose guards hold again.
  induction operations generalizing exchanges context with
  | nil => rfl
  | cons operation rest induction =>
      rcases List.forall_mem_cons.mp addressable with ⟨first, later⟩
      rw [runGuarded, performGuarded_eq (inBounds_of_leads leads) first]
      dsimp only [Option.bind_eq_bind, Option.bind_some]
      rw [induction (leads.call operation) later]
      rfl

end

end Context

/-! ## Lengths in blocks -/

structure Block.Spells (block : Block) (first second : Nat) : Prop where
  first : Bytes.bigEndian (block.toList.take 8) = first
  second : Bytes.bigEndian (block.toList.drop 8) = second

theorem Bytes.bigEndian_toBigEndian_toNat (number : UInt64) :
    bigEndian (toBigEndian 8 number.toNat) = number.toNat := by
  rw [bigEndian_toBigEndian, capacity_eight]
  exact Nat.mod_eq_of_lt number.toNat_lt_size

namespace GHash

theorem spells_lengthBlock (aadBits textBits : UInt64) :
    (lengthBlock aadBits textBits).Spells aadBits.toNat textBits.toNat := by
  have length := Bytes.length_toBigEndian 8 aadBits.toNat
  constructor
  case first =>
    rw [Standard.toList_lengthBlock, List.take_left' length, Bytes.bigEndian_toBigEndian_toNat]
  case second =>
    rw [Standard.toList_lengthBlock, List.drop_left' length, Bytes.bigEndian_toBigEndian_toNat]

end GHash

theorem Session.InBounds.spells {session : Session} (bounds : session.InBounds) :
    (GHash.lengthBlock (session.aadLength * 8) (session.textLength * 8)).Spells
      (8 * session.aadLength.toNat) (8 * session.textLength.toNat) := by
  rw [Nat.mul_comm 8, Nat.mul_comm 8,
    ← Guarded.word_eq_some_iff.mp (Guarded.word_bits bounds.aadBits),
    ← Guarded.word_eq_some_iff.mp (Guarded.word_bits bounds.textBits)]
  exact GHash.spells_lengthBlock _ _

namespace Context

variable {Key : Type}

theorem toNat_total (context : Context Key) {length : Nat}
    (valid : context.checkUpdate length = .ok ()) :
    (context.processedLength + UInt64.ofNat length).toNat =
      context.processedLength.toNat + length := by
  have limit := context.config.lengthLimit.maxMessage_le
  have within := ((context.checkUpdate_ok_iff length).mp valid).2.2
  have size : UInt64.size = 18446744073709551616 := rfl
  have short : (UInt64.ofNat length).toNat = length := UInt64.toNat_ofNat_of_lt' (by omega)
  have fits : context.processedLength.toNat + (UInt64.ofNat length).toNat < UInt64.size := by omega
  rw [Guarded.word_eq_some_iff.mp (Guarded.word_sum fits), short]

variable [BlockCipher Key]

/-- Whatever calls and copies led to a context, no guard of any further calls fails. The lengths
that are hashed are the true ones in bits, the count of text stays exact, and the check that this
rests on accepts all that the limit for a message allows. -/
theorem guards_never_fail (key : Key) (config : Config) (exchanges : List Exchange)
    (context : Context Key) (leads : (new key config).Leads exchanges context) :
    (∀ operations : List Operation, (∀ operation ∈ operations, operation.Addressable) →
      context.runGuarded operations = some (context.run operations).value) ∧
    (∀ session, context.session = some session →
      session.leftoverLength ≤ 15 ∧
      ∃ direction iv aad since,
        Open exchanges direction iv aad since ∧
        (GHash.lengthBlock 0 (UInt64.ofNat iv.length * 8)).Spells 0 (8 * iv.length) ∧
        (GHash.lengthBlock (session.aadLength * 8) (session.textLength * 8)).Spells
          (8 * aad.length) (8 * (since.flatMap Exchange.text).length)) ∧
    (∀ length, context.checkUpdate length = .ok () →
      (context.processedLength + UInt64.ofNat length).toNat =
        context.processedLength.toNat + length) ∧
    ∀ (limits : Config) (processed : UInt64) (additional : Nat),
      (additional < UInt64.size →
        limits.validateTextGuarded processed additional =
          some (limits.validateText processed additional)) ∧
      (limits.validateText processed additional = .ok () ↔
        processed.toNat + additional ≤ limits.lengthLimit.maxMessage) := by
  refine ⟨fun operations addressable => runGuarded_eq leads addressable, ?_,
    fun length valid => context.toNat_total valid, fun limits processed additional =>
      ⟨limits.validateTextGuarded_eq processed, limits.validateText_eq_ok_iff processed additional⟩⟩
  intro session present
  have bounds := inBounds_of_leads leads session present
  have isOpen : context.phase.isOpen := by
    rw [← leads.situation.session_isSome_iff, present]
    rfl
  rcases leads.situation.of_isOpen isOpen with ⟨direction, iv, aad, since, opened, processing⟩
  refine ⟨bounds.leftoverLength, direction, iv, aad, since, opened, ?_, ?_⟩
  · have ivValid := (Config.validateStart_eq_ok_iff.mp processing.valid).1
    rw [← Bytes.toNat_bits (Config.bitsFit_of_validateIv ivValid)]
    exact GHash.spells_lengthBlock 0 _
  · have spells := bounds.spells
    rw [(processing.represents present).aadLength, processing.toNat_textLength present] at spells
    exact spells

theorem guards_never_fail_across_blocks :
    let context := ((new (id : Block → Block)).run
      [.initialise .decrypt [1] [2], .updateInPlace [3, 4, 5]]).value.2
    let later := [Operation.update (List.replicate 15 6) (List.replicate 16 0),
      .finaliseDecryption (List.replicate 16 7)]
    context.runGuarded later = some (context.run later).value ∧
    (∀ session, context.session = some session → session.leftoverLength ≤ 15) ∧
    (context.processedLength + 15).toNat = 18 ∧
    Config.compact.validateText 250 6 ≠ .ok () ∧ Config.compact.validateText 250 5 = .ok () := by
  intro context later
  have leads := (new (id : Block → Block)).leads_run
    [.initialise .decrypt [1] [2], .updateInPlace [3, 4, 5]]
  rcases guards_never_fail id {} _ context leads with ⟨runs, sessions, totals, limits⟩
  have valid : context.checkUpdate 15 = .ok () := by decide +kernel
  have count : context.processedLength.toNat = 3 := by decide +kernel
  have total := totals 15 valid
  rw [count] at total
  have short (session : Session) (present : context.session = some session) :
      session.leftoverLength ≤ 15 := (sessions session present).1
  refine ⟨runs later (by decide), short, total, ?_, ?_⟩
  · rw [Ne, (limits Config.compact 250 6).2]
    decide
  · rw [(limits Config.compact 250 5).2]
    decide

end Context

end GaloisCounter
