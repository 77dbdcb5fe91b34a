import PulpGame.Proofs.Block.Mention
import PulpGame.Proofs.Variable.Code
import PulpGame.Proofs.Variable.Naming

namespace PulpGame

open Lua (Term Statement)

namespace Variable

def globalPlace (table key : Term) : List Term :=
  match table, key with
  | .name "_G", .string k => [.index (.name "_G") (.string k)]
  | _, _ => []

mutual

def termPlaces : Term → List Term
  | .name n => if isBare n then [.name n] else []
  | .index table key => globalPlace table key ++ (termPlaces table ++ termPlaces key)
  | .call f xs => termPlaces f ++ termsPlaces xs
  | .invoke object _ xs => termPlaces object ++ termsPlaces xs
  | .group t => termPlaces t
  | .unary _ t => termPlaces t
  | .binary _ x y => termPlaces x ++ termPlaces y
  | _ => []

def termsPlaces : List Term → List Term
  | [] => []
  | t :: ts => termPlaces t ++ termsPlaces ts

end

mutual

def statementPlaces : Statement → List Term
  | .assign targets values => termsPlaces targets ++ termsPlaces values
  | .call t => termPlaces t
  | .block body => statementsPlaces body
  | .loop t body => termPlaces t ++ statementsPlaces body
  | .choose t body other => termPlaces t ++ (statementsPlaces body ++ statementsPlaces other)
  | .giveBack ts => termsPlaces ts
  | _ => []

def statementsPlaces : List Statement → List Term
  | [] => []
  | s :: ss => statementPlaces s ++ statementsPlaces ss

end

theorem termsPlaces_eq (ts : List Term) : termsPlaces ts = ts.flatMap termPlaces := by
  induction ts with
  | nil => rfl
  | cons t ts ih => rw [termsPlaces, ih, List.flatMap_cons]

theorem statementsPlaces_eq (ss : List Statement)
    : statementsPlaces ss = ss.flatMap statementPlaces := by
  induction ss with
  | nil => rfl
  | cons s ss ih => rw [statementsPlaces, ih, List.flatMap_cons]

theorem termPlaces_place (v : String) : termPlaces (place v).term = [(place v).term] := by
  unfold place
  split
  . next h => rw [Lua.Expr.term, termPlaces, if_pos h]
  . rfl

theorem place_injective {v w : String} (h : (place v).term = (place w).term) : v = w := by
  unfold place at h
  split at h <;> split at h
  . simpa [Lua.Expr.term] using h
  . simp [Lua.Expr.term] at h
  . simp [Lua.Expr.term] at h
  . apply namespaced_injective
    simpa [Lua.Expr.term] using h

theorem place_mem_place {v w : String} : (place v).term ∈ termPlaces (place w).term ↔ v = w := by
  rw [termPlaces_place, List.mem_singleton]
  exact ⟨place_injective, by rintro rfl; rfl⟩

theorem termPlaces_numeral (text : String) : termPlaces (Lua.numeralTerm text) = [] := by
  unfold Lua.numeralTerm
  split <;> rfl

theorem isBare_reserved (n : String) : isBare ("__" ++ n) = false := by
  have hmarked : hasReserved ("__" ++ n).toList := hasReserved_reserved n
  rw [isBare, needsNamespace, hmarked, Bool.true_or, Bool.not_true, Bool.and_false]

theorem mem_places_concat {p : Term} {ts : List Term}
    : p ∈ termPlaces (Lua.concatTerm ts) ↔ p ∈ termsPlaces ts := by
  induction ts with
  | nil => simp [Lua.concatTerm, termPlaces, termsPlaces]
  | cons t ts ih =>
    cases ts with
    | nil => simp [Lua.concatTerm, termsPlaces]
    | cons u us =>
      rw [Lua.concatTerm, termPlaces, termsPlaces, List.mem_append, List.mem_append, ih]
      simp

end Variable

namespace Block

open Variable

theorem ExprMeans.mem_places {site : Site} {x : Json.Value} {t : Term} {notes : List Note}
    (h : ExprMeans site x t notes) (v : String)
    : (place v).term ∈ termPlaces t ↔ v ∈ uses notes := by
  induction h with
  | number | tile => simp [termPlaces_numeral]
  | text | boolean | null | unknownTile | unsupported | formatNothing => simp [termPlaces]
  | var => simp [place_mem_place]
  | event =>
    have hname : isBare "event" = false := by decide
    simp [termPlaces, globalPlace, hname]
  | @format parts hne h ih =>
    have hname : isBare "__tostring" = false := by decide
    rw [termPlaces, mem_places_concat, termsPlaces_eq, uses_flatMap]
    simp only [List.mem_flatMap, List.mem_map, exists_exists_and_eq_and]
    apply exists_congr
    intro p
    apply and_congr_right
    intro hp
    rw [← ih p hp]
    simp [termPlaces, termsPlaces, hname]
  | binary hword hx hy ihx ihy => simp [termPlaces, ihx, ihy]
  | apply hword hx ih =>
    simp [termPlaces, termsPlaces, ih, isBare_reserved]
  | random hx hy ihx ihy =>
    have hname : isBare "__random" = false := by decide
    simp [termPlaces, termsPlaces, ihx, ihy, hname]

theorem StatementMeans.mem_places {site : Site} {x : Json.Value} {opened : List Opened}
    {code : List Lua.Statement} {notes : List Note} (h : StatementMeans site x opened code notes)
    (v : String)
    (hopened : ∀ b ∈ opened, (place v).term ∈ statementsPlaces b.body ↔ v ∈ uses b.notes)
    : (place v).term ∈ statementsPlaces code ↔ v ∈ uses notes := by
  have hpulp : isBare "__pulp" = false := by decide
  have hself : isBare "__self" = false := by decide
  have hprint : isBare "__print" = false := by decide
  have hevent : isBare "event" = false := by decide
  cases h with
  | set hx =>
    simp [statementsPlaces, statementPlaces, termsPlaces, place_mem_place, hx.mem_places, or_comm]
  | increment | decrement =>
    simp [statementsPlaces, statementPlaces, termsPlaces, termPlaces, place_mem_place]
  | update hword hx =>
    simp [statementsPlaces, statementPlaces, termsPlaces, termPlaces, place_mem_place,
      hx.mem_places, or_comm]
  | branch hx | branchElse hx | loop hx =>
    simp only [List.forall_mem_cons] at hopened
    simp [statementsPlaces, statementPlaces, hx.mem_places, hopened]
  | mimic | done | unsupported => simp [statementsPlaces, statementPlaces, termsPlaces]
  | log hx | say hx | sound hx =>
    simp [statementsPlaces, statementPlaces, termsPlaces, termPlaces, callTerm, hx.mem_places,
      hprint, hpulp, hself, hevent]
  | call | emit =>
    simp [statementsPlaces, statementPlaces, termsPlaces, termPlaces, callTerm, hpulp, hself, hevent]
  | @goto parts rest hleast hmost h =>
    have hparts : (∃ p ∈ parts, (place v).term ∈ termPlaces p.term) ↔ ∃ p ∈ parts, v ∈ uses p.notes :=
      exists_congr fun p => and_congr_right fun hp => (h p hp).mem_places v
    simpa [statementsPlaces, statementPlaces, termPlaces, callTerm, hpulp, termsPlaces_eq,
      uses_flatMap] using hparts

theorem BlockMeans.mem_places {site : Site} {blocks : List Json.Value} {i : Nat}
    {body : List Lua.Statement} {notes : List Note} (h : BlockMeans site blocks i body notes)
    (v : String)
    : (place v).term ∈ statementsPlaces body ↔ Mentions statementVariables blocks i v := by
  rw [← h.mem_uses]
  induction h with
  | @intro i parts hblock hparts hopened ih =>
    rw [statementsPlaces_eq, List.flatMap_assoc, uses_flatMap, List.mem_flatMap, List.mem_flatMap]
    apply exists_congr
    intro p
    apply and_congr_right
    intro hp
    rw [← statementsPlaces_eq]
    exact (hparts p hp).mem_places v (ih p hp)

end Block

end PulpGame
