import Mathlib.Logic.Basic

/-!
# Asynchronous programs

A program is a finite tree of the steps that one asynchronous task takes on a
shared memory.  An `access` is a section that no other task interleaves with:
a critical section of an awaited lock, or synchronous code between two awaits.
A `call` asks something outside the memory and continues with its reply.

Every step records whether the task awaits there.  A task that awaits may be
dropped, which leaves the memory as it is and never runs the continuation;
between two steps that do not await it cannot be dropped, although other tasks
may still run.
-/

namespace XanhTab

universe u v w x

/-- The steps of one task over a memory `M`, requests `C` and replies `ρ`. -/
inductive Program (M : Type u) (C : Type v) (ρ : C → Type w) (α : Type x)
  | done (result : α)
  | access (awaits : Bool) (update : M → M) (next : M → Program M C ρ α)
  | call (awaits : Bool) (request : C) (next : ρ request → Program M C ρ α)

namespace Program

variable {M : Type u} {C : Type v} {ρ : C → Type w} {α β : Type x}

/-- Sequential composition. -/
def bind : Program M C ρ α → (α → Program M C ρ β) → Program M C ρ β
  | done result, rest => rest result
  | access awaits update next, rest =>
      access awaits update fun memory => (next memory).bind rest
  | call awaits request next, rest =>
      call awaits request fun reply => (next reply).bind rest

instance : Monad (Program M C ρ) where
  pure := done
  bind := bind

@[simp]
theorem pure_eq_done (result : α) : (pure result : Program M C ρ α) = done result :=
  rfl

@[simp]
theorem done_bind (result : α) (rest : α → Program M C ρ β) :
    (done result : Program M C ρ α) >>= rest = rest result :=
  rfl

@[simp]
theorem access_bind (awaits : Bool) (update : M → M) (next : M → Program M C ρ α)
    (rest : α → Program M C ρ β) :
    access awaits update next >>= rest =
      access awaits update fun memory => next memory >>= rest :=
  rfl

@[simp]
theorem call_bind (awaits : Bool) (request : C) (next : ρ request → Program M C ρ α)
    (rest : α → Program M C ρ β) :
    call awaits request next >>= rest =
      call awaits request fun reply => next reply >>= rest :=
  rfl

/-- A section that returns a value computed from the memory it found. -/
def transact (awaits : Bool) (body : M → α × M) : Program M C ρ α :=
  access awaits (fun memory => (body memory).2) fun memory => done (body memory).1

/-- The critical section of a lock that the task awaits. -/
abbrev lock (body : M → α × M) : Program M C ρ α :=
  transact true body

/-- Synchronous code on the memory. -/
abbrev sync (body : M → α × M) : Program M C ρ α :=
  transact false body

/-- A read under an awaited lock. -/
abbrev read (value : M → α) : Program M C ρ α :=
  lock fun memory => (value memory, memory)

/-- Continue with the value of a successful result, as the `?` operator does. -/
def andThen {ε : Type x} (program : Program M C ρ (Except ε α))
    (rest : α → Program M C ρ (Except ε β)) : Program M C ρ (Except ε β) :=
  program >>= fun result =>
    match result with
    | .ok value => rest value
    | .error error => done (.error error)

/-- A request whose reply is the result. -/
abbrev ask {ρ : C → Type x} (awaits : Bool) (request : C) : Program M C ρ (ρ request) :=
  call awaits request done

end Program

end XanhTab
