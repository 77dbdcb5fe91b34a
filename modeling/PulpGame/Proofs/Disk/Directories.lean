import PulpGame.Disk.Basic

namespace PulpGame.Disk

variable {m n : Type → Type} [Monad m] [FileSystem m] [Monad n] [FileSystem n]

/-- The relation between computations on two disks holds of the requests for directories, and of
what is put together from computations between which it holds. -/
structure Composes (R : (α : Type) → m α → n α → Prop) : Prop where
  pure {α : Type} (a : α) : R α (Pure.pure a) (Pure.pure a)
  bind {α β : Type} {x : m α} {y : n α} {f : α → m β} {g : α → n β} (hx : R α x y)
    (hf : ∀ a, R β (f a) (g a)) : R β (x >>= f) (y >>= g)
  isDirectory (path : String) : R _ (FileSystem.isDirectory path) (FileSystem.isDirectory path)
  makeDirectory (path : String) : R _ (FileSystem.makeDirectory path) (FileSystem.makeDirectory path)

namespace Composes

variable {R : (α : Type) → m α → n α → Prop}

theorem settle (h : Composes R) (path : String) (e : Error)
    : R _ (Disk.settle path e) (Disk.settle path e) := by
  refine h.bind (h.isDirectory path) fun found => ?_
  cases found <;> exact h.pure _

theorem createUpTo (h : Composes R) (p : Path) (steps : Nat)
    : R _ (Disk.createUpTo p steps) (Disk.createUpTo p steps) := by
  induction steps with
  | zero => exact h.pure _
  | succ k ih =>
    refine h.bind (h.makeDirectory _) fun made => ?_
    rcases made with e | ⟨⟩
    . cases e with
      | notFound =>
        -- The directory above is missing: it is made, and then the request is made again.
        refine h.bind ih fun above => ?_
        rcases above with e | ⟨⟩
        . exact h.pure _
        . refine h.bind (h.makeDirectory _) fun again => ?_
          rcases again with e | ⟨⟩
          . exact h.settle _ e
          . exact h.pure _
      | _ => exact h.settle _ _
    . exact h.pure _

theorem createDirectories (h : Composes R) (path : String)
    : R _ (Disk.createDirectories path) (Disk.createDirectories path) := by
  unfold Disk.createDirectories
  dsimp only
  split
  . split
    . exact h.pure _
    . exact h.createUpTo _ 1
  . exact h.createUpTo _ _

end Composes

end PulpGame.Disk
