import GaloisCounter.BlockCipher
import GaloisCounter.Event

/-!
Values together with what computing them did.

A computation may ask a block cipher to encrypt blocks and may report events. Both are recorded in
order, so that it can be said which inputs a cipher was given and what was reported.
-/

namespace GaloisCounter

structure Traced (Value : Type) where
  value : Value
  /-- The blocks that the cipher was asked to encrypt. -/
  calls : List Block
  events : List Event

namespace Traced

def of (value : Value) : Traced Value := ⟨value, [], []⟩

def andThen (first : Traced First) (next : First → Traced Second) : Traced Second :=
  let second := next first.value
  ⟨second.value, first.calls ++ second.calls, first.events ++ second.events⟩

instance : Monad Traced where
  pure := of
  bind := andThen

@[simp] theorem value_pure (value : Value) : (pure value : Traced Value).value = value := rfl

@[simp] theorem calls_pure (value : Value) : (pure value : Traced Value).calls = [] := rfl

@[simp] theorem events_pure (value : Value) : (pure value : Traced Value).events = [] := rfl

@[simp] theorem value_bind (first : Traced First) (next : First → Traced Second) :
    (first >>= next).value = (next first.value).value := rfl

@[simp] theorem calls_bind (first : Traced First) (next : First → Traced Second) :
    (first >>= next).calls = first.calls ++ (next first.value).calls := rfl

@[simp] theorem events_bind (first : Traced First) (next : First → Traced Second) :
    (first >>= next).events = first.events ++ (next first.value).events := rfl

@[simp] theorem value_map (transform : First → Second) (first : Traced First) :
    (transform <$> first).value = transform first.value := rfl

@[simp] theorem calls_map (transform : First → Second) (first : Traced First) :
    (transform <$> first).calls = first.calls := List.append_nil _

@[ext] theorem ext {left right : Traced Value} (value : left.value = right.value)
    (calls : left.calls = right.calls) (events : left.events = right.events) : left = right := by
  cases left
  cases right
  simp_all

theorem bind_pure_value (first : Traced Value) : first >>= pure = first :=
  ext rfl (List.append_nil _) (List.append_nil _)

instance : LawfulMonad Traced :=
  LawfulMonad.mk' Traced bind_pure_value (fun _ _ => rfl)
    (fun _ _ _ => ext rfl (List.append_assoc ..) (List.append_assoc ..))

def report (event : Event) : Traced Unit := ⟨(), [], [event]⟩

@[simp] theorem calls_report (event : Event) : (report event).calls = [] := rfl

def encrypt [BlockCipher Key] (key : Key) (block : Block) : Traced Block :=
  ⟨BlockCipher.encrypt key block, [block], []⟩

end Traced

end GaloisCounter
