import PulpGame.Proofs.Lua.Grammar
/-!
The local variables of a block: their names, and how many are active at each point of it.

A local is active from behind its statement to the end of the block in which the statement stands. A
loop that counts or goes through a table keeps locals of its own while its body runs. The locals of a
function are none of the block that makes the function.
-/

namespace PulpGame.Lua

def Statement.declares : Statement → List String
  | .declare names _ => names.map (·.1)
  | .declareFunction name _ => [name]
  | _ => []

/-- The locals that a loop has besides the names in front of its body. -/
def hiddenInCount : Nat := 3

def hiddenInEach : Nat := 4

mutual

/-- The numbers of active locals at the points within a statement, if there are `n` in front of it. -/
def Statement.activeLocals (n : Nat) : Statement → List Nat
  | .block body => blockActiveLocals n body
  | .loop _ body => blockActiveLocals n body
  | .loopUntil body _ => blockActiveLocals n body
  | .choose _ body other => blockActiveLocals n body ++ blockActiveLocals n other
  | .forRange _ _ _ _ body => blockActiveLocals (n + hiddenInCount + 1) body
  | .forEach names _ body => blockActiveLocals (n + hiddenInEach + names.length) body
  | _ => []

def blockActiveLocals (n : Nat) : List Statement → List Nat
  | [] => [n]
  | s :: ss => n :: (s.activeLocals n ++ blockActiveLocals (n + s.declares.length) ss)

end

mutual

def Statement.localNames : Statement → List String
  | .declare names _ => names.map (·.1)
  | .declareFunction name _ => [name]
  | .block body => blockLocalNames body
  | .loop _ body => blockLocalNames body
  | .loopUntil body _ => blockLocalNames body
  | .choose _ body other => blockLocalNames body ++ blockLocalNames other
  | .forRange _ _ _ _ body => blockLocalNames body
  | .forEach _ _ body => blockLocalNames body
  | _ => []

def blockLocalNames : List Statement → List String
  | [] => []
  | s :: ss => s.localNames ++ blockLocalNames ss

end

mutual

def Statement.heldByLoops : Statement → Nat
  | .block body => blockHeldByLoops body
  | .loop _ body => blockHeldByLoops body
  | .loopUntil body _ => blockHeldByLoops body
  | .choose _ body other => max (blockHeldByLoops body) (blockHeldByLoops other)
  | .forRange _ _ _ _ body => hiddenInCount + 1 + blockHeldByLoops body
  | .forEach names _ body => hiddenInEach + names.length + blockHeldByLoops body
  | _ => 0

def blockHeldByLoops : List Statement → Nat
  | [] => 0
  | s :: ss => max s.heldByLoops (blockHeldByLoops ss)

end

theorem Statement.declares_le (s : Statement) : s.declares.length ≤ s.localNames.length := by
  cases s with
  | declare => exact Nat.le_refl _
  | declareFunction => exact Nat.le_refl _
  | _ => exact Nat.zero_le _

mutual

theorem Statement.activeLocals_le {n k : Nat} : (s : Statement) → k ∈ s.activeLocals n →
    k ≤ n + s.localNames.length + s.heldByLoops
  | .block body, h => blockActiveLocals_le body h
  | .loop _ body, h => blockActiveLocals_le body h
  | .loopUntil body _, h => blockActiveLocals_le body h
  | .choose _ body other, h => by
    rw [Statement.activeLocals, List.mem_append] at h
    rw [Statement.localNames, Statement.heldByLoops, List.length_append]
    cases h with
    | inl h =>
      have := blockActiveLocals_le body h
      omega
    | inr h =>
      have := blockActiveLocals_le other h
      omega
  | .forRange _ _ _ _ body, h => by
    have := blockActiveLocals_le body h
    rw [Statement.localNames, Statement.heldByLoops]
    omega
  | .forEach names _ body, h => by
    have := blockActiveLocals_le body h
    rw [Statement.localNames, Statement.heldByLoops]
    omega
  | .assign _ _, h | .call _, h | .declare _ _, h | .declareFunction _ _, h | .giveBack _, h
  | .leaveLoop, h | .goto _, h | .label _, h => absurd h List.not_mem_nil

theorem blockActiveLocals_le {n k : Nat} : (body : List Statement) → k ∈ blockActiveLocals n body →
    k ≤ n + (blockLocalNames body).length + blockHeldByLoops body
  | [], h => by
    rw [blockActiveLocals, List.mem_singleton] at h
    omega
  | s :: ss, h => by
    rw [blockActiveLocals, List.mem_cons, List.mem_append] at h
    rw [blockLocalNames, blockHeldByLoops, List.length_append]
    rcases h with h | h | h
    . omega
    . have := s.activeLocals_le h
      omega
    . have := blockActiveLocals_le ss h
      have := s.declares_le
      omega

end

structure Occupies (body : List Statement) (names : List String) (held : Nat) : Prop where
  names_eq : blockLocalNames body = names
  held_le : blockHeldByLoops body ≤ held

namespace Occupies

variable {body : List Statement} {names : List String} {held : Nat}

theorem append {other : List Statement} {more : List String} (h : Occupies body names held)
    (h' : Occupies other more held) : Occupies (body ++ other) (names ++ more) held := by
  induction body generalizing names with
  | nil =>
    cases h.names_eq
    exact h'
  | cons s ss ih =>
    obtain ⟨hnames, hheld⟩ := h
    rw [blockHeldByLoops] at hheld
    have hrest : Occupies ss (blockLocalNames ss) held := ⟨rfl, by omega⟩
    constructor
    . rw [List.cons_append, blockLocalNames, (ih hrest).names_eq, ← hnames, blockLocalNames,
        List.append_assoc]
    . have := (ih hrest).held_le
      rw [List.cons_append, blockHeldByLoops]
      omega

theorem flatMap {α : Type} {f : α → List Statement} {g : α → List String} {as : List α}
    (h : ∀ a ∈ as, Occupies (f a) (g a) held)
    : Occupies (as.flatMap f) (as.flatMap g) held := by
  induction as with
  | nil => exact ⟨rfl, Nat.zero_le _⟩
  | cons a as ih =>
    rw [List.flatMap_cons, List.flatMap_cons]
    apply append
    . exact h a (by simp)
    . exact ih fun b hb => h b (by simp [hb])

theorem flatMap_none {α : Type} {f : α → List Statement} {as : List α}
    (h : ∀ a ∈ as, Occupies (f a) [] held)
    : Occupies (as.flatMap f) [] held := by
  have hall := flatMap (g := fun _ => []) h
  rwa [List.flatMap_eq_nil_iff.mpr fun _ _ => rfl] at hall

theorem ofNone (h : ∀ s ∈ body, s.localNames = [] ∧ s.heldByLoops = 0)
    : Occupies body [] held := by
  induction body with
  | nil => exact ⟨rfl, Nat.zero_le _⟩
  | cons s ss ih =>
    obtain ⟨hnames, hheld⟩ := ih fun r hr => h r (by simp [hr])
    have hs := h s (by simp)
    constructor
    . rw [blockLocalNames, hs.1, hnames, List.append_nil]
    . rw [blockHeldByLoops, hs.2]
      omega

theorem le (h : Occupies body names held) {n k : Nat} (hk : k ∈ blockActiveLocals n body)
    : k ≤ n + names.length + held := by
  have := blockActiveLocals_le body hk
  rw [h.names_eq] at this
  have := h.held_le
  omega

end Occupies

end PulpGame.Lua
