import PulpGame.Disk.Tree
import PulpGame.Proofs.Disk.Directories
import PulpGame.Proofs.Disk.Path
import PulpGame.Proofs.Outcome
/-!
What changes of a tree keep, and what they put where.

No change removes anything: directories stay what they are. So a path that leads somewhere leads there
after every change, and only what files hold can differ.
-/

namespace PulpGame.Disk.Tree

variable {t t' : Tree} {l l' : Location} {p : Path} {c : Content}

theorem node?_put (hl : l ≠ []) (n : Node) (l' : Location)
    : (t.put l n).node? l' = if l' = l then some n else t.node? l' := by
  unfold node? put
  by_cases hroot : l' = []
  . subst hroot
    simp [Ne.symm hl]
  . by_cases hsame : l' = l
    . subst hsame
      simp [hroot]
    . simp [hroot, hsame, Ne.symm hsame]

def start (t : Tree) (p : Path) : Location := if p.absolute then [] else t.current

theorem enter_eq_ok : t.enter l = .ok l' ↔ t.node? l = some .directory ∧ l' = l := by
  unfold enter
  cases h : t.node? l with
  | none => simp
  | some n => cases n <;> simp [eq_comm]

theorem walk_cons {s : String} {ss : List String}
    : t.walk l (s :: ss) = .ok l' ↔
        t.node? l = some .directory ∧ s.utf8ByteSize ≤ nameLimit ∧
          t.walk (step l s) ss = .ok l' := by
  rw [walk, bind_eq_ok]
  constructor
  . rintro ⟨directory, henter, h⟩
    obtain ⟨hdirectory, rfl⟩ := enter_eq_ok.mp henter
    split at h
    . cases h
    . next hlong => exact ⟨hdirectory, Nat.le_of_not_lt hlong, h⟩
  . rintro ⟨hdirectory, hlong, h⟩
    refine ⟨l, enter_eq_ok.mpr ⟨hdirectory, rfl⟩, ?_⟩
    rw [if_neg (Nat.not_lt_of_le hlong)]
    exact h

theorem walk_append {ss ss' : List String}
    : t.walk l (ss ++ ss') = .ok l' ↔
        ∃ mid, t.walk l ss = .ok mid ∧ t.walk mid ss' = .ok l' := by
  induction ss generalizing l with
  | nil =>
    simp [walk]
  | cons s ss ih =>
    simp only [List.cons_append, walk_cons, ih]
    tauto

theorem step_fileName {name : String} (h : IsFileName name) (l : Location)
    : step l name = l ++ [name] := by
  unfold step
  split
  . exact absurd rfl h.ne_dot
  . exact absurd rfl h.ne_dots
  . rfl

theorem walk_of_locate (h : t.locate p = .ok l) : t.walk (t.start p) p.steps = .ok l := by
  unfold locate at h
  split at h
  . cases h
  . split at h
    . cases h
    . split at h
      . cases h
      . exact h

theorem find_eq_file
    : t.find p = .ok (.file c) ↔
        ∃ l, t.locate p = .ok l ∧ t.node? l = some (.file c) ∧ p.slashed = false := by
  simp only [find, bind_eq_ok]
  refine exists_congr fun l => and_congr_right fun _ => ?_
  cases t.node? l with
  | none => simp [throw_ne_ok]
  | some n =>
    cases n with
    | directory => simp [pure_eq_ok]
    | file content =>
      by_cases hslashed : p.slashed = true
      . simp [hslashed, throw_ne_ok]
      . simp [hslashed, pure_eq_ok]

theorem isFile_eq_true : t.isFile p = true ↔ ∃ content, t.find p = .ok (.file content) := by
  unfold isFile
  split
  . next content h => simp [h]
  . next h =>
    simp only [Bool.false_eq_true, false_iff, not_exists]
    exact h

theorem find_congr {q : Path} (hlocate : t.locate p = t.locate q) (hslashed : p.slashed = q.slashed)
    : t.find p = t.find q := by
  unfold find
  rw [hlocate, hslashed]

theorem eq_append_of_fileName? {name : String} (h : p.fileName? = some name)
    (hlocate : t.locate p = .ok l) (hfile : t.node? l = some (.file c))
    : ∃ directory, l = directory ++ [name] := by
  obtain ⟨hlast, hname⟩ := Path.eq_of_fileName? h
  have hwalk := walk_of_locate hlocate
  unfold Path.named at hlast
  rcases List.eq_nil_or_concat p.steps with hnil | ⟨front, s, hsteps⟩
  . simp [hnil] at hlast
  . rw [List.concat_eq_append] at hsteps
    rw [hsteps, walk_append] at hwalk
    obtain ⟨mid, -, hwalk⟩ := hwalk
    obtain ⟨hdirectory, -, hend⟩ := walk_cons.mp hwalk
    cases hend
    by_cases hdot : s = "."
    . -- A single dot leads to a directory, and this is a file.
      rw [hdot, step, hdirectory] at hfile
      cases hfile
    . have hs : s = name := by simpa [hsteps, hdot] using hlast
      exact ⟨mid, by rw [hs, step_fileName hname]⟩

/-- Directories stay directories, and relative paths start where they did. -/
structure Keeps (t t' : Tree) : Prop where
  current_eq : t'.current = t.current
  directory : ∀ l, t.node? l = some .directory → t'.node? l = some .directory

namespace Keeps

theorem refl (t : Tree) : Keeps t t := ⟨rfl, fun _ h => h⟩

theorem trans {u : Tree} (h : Keeps t u) (h' : Keeps u t') : Keeps t t' :=
  ⟨h'.current_eq.trans h.current_eq, fun l hl => h'.directory l (h.directory l hl)⟩

theorem start_eq (h : Keeps t t') (p : Path) : t'.start p = t.start p := by
  rw [start, start, h.current_eq]

theorem walk (h : Keeps t t') {ss : List String} (hwalk : t.walk l ss = .ok l')
    : t'.walk l ss = .ok l' := by
  induction ss generalizing l with
  | nil => exact hwalk
  | cons s ss ih =>
    obtain ⟨hdirectory, hlong, hrest⟩ := walk_cons.mp hwalk
    exact walk_cons.mpr ⟨h.directory l hdirectory, hlong, ih hrest⟩

theorem locate (h : Keeps t t') (hlocate : t.locate p = .ok l) : t'.locate p = .ok l := by
  have hwalk := h.walk (walk_of_locate hlocate)
  rw [← h.start_eq] at hwalk
  unfold Tree.locate at hlocate ⊢
  split at hlocate
  . cases hlocate
  . split at hlocate
    . cases hlocate
    . split at hlocate
      . cases hlocate
      . next hnull hlong hempty =>
        rw [if_neg hnull, if_neg hlong, if_neg hempty]
        exact hwalk

end Keeps

def Opens (t : Tree) (directory : String) (l : Location) : Prop :=
  t.walk (t.start ⟨directory⟩) (Path.mk directory).steps = .ok l

namespace Opens

variable {directory : String}

theorem unique (h : t.Opens directory l) (h' : t.Opens directory l') : l = l' := by
  unfold Opens at h h'
  rw [h] at h'
  exact Except.ok.inj h'

theorem keeps (h : t.Opens directory l) (hkeeps : Keeps t t') : t'.Opens directory l := by
  unfold Opens
  rw [hkeeps.start_eq]
  exact hkeeps.walk h

end Opens

theorem locate_join {directory name : String} (h : IsFileName name)
    (hlocate : t.locate ⟨Path.join directory name⟩ = .ok l)
    : ∃ base, t.Opens directory base ∧ l = base ++ [name] := by
  have hwalk := walk_of_locate hlocate
  have hstart : t.start ⟨Path.join directory name⟩ = t.start ⟨directory⟩ := by
    rw [start, start, Path.absolute_join directory h]
  rw [Path.steps_join directory h, hstart, walk_append] at hwalk
  obtain ⟨base, hbase, hlast⟩ := hwalk
  obtain ⟨-, -, hend⟩ := walk_cons.mp hlast
  cases hend
  exact ⟨base, hbase, step_fileName h base⟩

structure Puts (t t' : Tree) (l : Location) (c : Content) : Prop where
  current_eq : t'.current = t.current
  not_directory : t.node? l ≠ some .directory
  node?_eq : ∀ l', t'.node? l' = if l' = l then some (.file c) else t.node? l'

namespace Puts

theorem of_put (h : t.node? l ≠ some .directory) : Puts t (t.put l (.file c)) l c where
  current_eq := rfl
  not_directory := h
  node?_eq := by
    refine node?_put ?_ (.file c)
    rintro rfl
    exact h rfl

theorem keeps (h : Puts t t' l c) : Keeps t t' where
  current_eq := h.current_eq
  directory := by
    intro l' hl'
    rw [h.node?_eq, if_neg, hl']
    rintro rfl
    exact h.not_directory hl'

theorem trans {u : Tree} {c' : Content} (h : Puts t u l c) (h' : Puts u t' l c')
    : Puts t t' l c' where
  current_eq := h'.current_eq.trans h.current_eq
  not_directory := h.not_directory
  node?_eq := by
    intro l'
    rw [h'.node?_eq, h.node?_eq]
    split <;> rfl

end Puts

theorem write_eq_ok (h : t.write p c = .ok t') : ∃ l, t.locate p = .ok l ∧ Puts t t' l c := by
  unfold write at h
  obtain ⟨l, hlocate, h⟩ := bind_eq_ok.mp h
  refine ⟨l, hlocate, ?_⟩
  cases hnode : t.node? l with
  | none =>
    rw [hnode] at h
    dsimp only at h
    split at h
    . exact absurd h throw_ne_ok
    . obtain rfl := pure_eq_ok.mp h
      exact .of_put (by simp [hnode])
  | some n =>
    cases n with
    | directory =>
      rw [hnode] at h
      exact absurd h throw_ne_ok
    | file content =>
      rw [hnode] at h
      dsimp only at h
      split at h
      . exact absurd h throw_ne_ok
      . obtain rfl := pure_eq_ok.mp h
        exact .of_put (by simp [hnode])

def copied (origin place : Location) (content : Content) : Content :=
  if origin = place then .text "" else content

theorem copied_self (content : Content) : copied l l content = .text "" := if_pos rfl

theorem copied_other (h : l ≠ l') (content : Content) : copied l l' content = content := if_neg h

theorem copy_eq_ok {source target : Path} (h : t.copy source target = .ok t')
    : ∃ origin place content, t.locate source = .ok origin ∧ t.node? origin = some (.file content) ∧
        t.locate target = .ok place ∧
        Puts t t' place (copied origin place content) := by
  unfold copy at h
  obtain ⟨n, hfind, h⟩ := bind_eq_ok.mp h
  cases n with
  | directory => exact absurd h throw_ne_ok
  | file content =>
    obtain ⟨emptied, hempty, h⟩ := bind_eq_ok.mp h
    obtain ⟨n, hfind', h⟩ := bind_eq_ok.mp h
    cases n with
    | directory => exact absurd h throw_ne_ok
    | file left =>
      obtain ⟨l, hl, hnode, -⟩ := find_eq_file.mp hfind
      obtain ⟨place, hplace, hputs⟩ := write_eq_ok hempty
      obtain ⟨l', hl', hnode', -⟩ := find_eq_file.mp hfind'
      obtain ⟨place', hplace', hputs'⟩ := write_eq_ok h
      rw [hputs.keeps.locate hl] at hl'
      rw [hputs.keeps.locate hplace] at hplace'
      cases hl'
      cases hplace'
      refine ⟨l, place, content, hl, hnode, hplace, ?_⟩
      -- The source is read when the target is empty already.
      have hleft : left = copied l place content := by
        rw [hputs.node?_eq] at hnode'
        split at hnode'
        . next hsame =>
          cases hnode'
          rw [hsame, copied_self]
        . next hother =>
          rw [hnode] at hnode'
          cases hnode'
          rw [copied_other hother]
      rw [← hleft]
      exact hputs.trans hputs'

structure Writable (t : Tree) (p : Path) : Prop where
  not_slashed : p.slashed = false
  place : ∃ l, t.locate p = .ok l ∧ t.node? l ≠ some .directory

instance : Decidable (t.Writable p) :=
  decidable_of_iff
    (p.slashed = false ∧ ∃ l ∈ (t.locate p).toOption, t.node? l ≠ some .directory) <| by
    cases h : t.locate p with
    | error e =>
      constructor
      . rintro ⟨-, l, hl, -⟩
        cases hl
      . rintro ⟨-, l, hl, -⟩
        rw [h] at hl
        cases hl
    | ok l =>
      constructor
      . rintro ⟨hslashed, l', hl', hfree⟩
        cases hl'
        exact ⟨hslashed, l, h, hfree⟩
      . rintro ⟨hslashed, l', hl', hfree⟩
        rw [h] at hl'
        cases hl'
        exact ⟨hslashed, l, rfl, hfree⟩

theorem Puts.find_file {c' : Content} (h : Puts t t' l c) (hfind : t.find p = .ok (.file c'))
    : ∃ content, t'.find p = .ok (.file content) := by
  obtain ⟨l', hlocate, hnode, hslashed⟩ := find_eq_file.mp hfind
  by_cases hsame : l' = l
  . exact ⟨c, find_eq_file.mpr ⟨l', h.keeps.locate hlocate, by rw [h.node?_eq, if_pos hsame],
      hslashed⟩⟩
  . exact ⟨c', find_eq_file.mpr ⟨l', h.keeps.locate hlocate,
      by rw [h.node?_eq, if_neg hsame, hnode], hslashed⟩⟩

namespace Writable

theorem puts (h : t.Writable p) (hputs : Puts t t' l c) : t'.Writable p := by
  obtain ⟨l', hlocate, hfree⟩ := h.place
  refine ⟨h.not_slashed, l', hputs.keeps.locate hlocate, ?_⟩
  rw [hputs.node?_eq]
  split
  . simp
  . exact hfree

theorem write (h : t.Writable p) (c : Content) : ∃ t', t.write p c = .ok t' := by
  obtain ⟨l, hlocate, hfree⟩ := h.place
  refine ⟨t.put l (.file c), ?_⟩
  unfold Tree.write
  rw [hlocate, h.not_slashed]
  cases hnode : t.node? l with
  | none => simp [bind_eq_ok, pure_eq_ok, hnode]
  | some n =>
    cases n with
    | directory => exact absurd hnode hfree
    | file => simp [bind_eq_ok, pure_eq_ok, hnode]

theorem copy {source : Path} (h : t.Writable p) (hsource : t.find source = .ok (.file c))
    : ∃ t', t.copy source p = .ok t' := by
  obtain ⟨emptied, hempty⟩ := h.write (.text "")
  obtain ⟨l, -, hputs⟩ := write_eq_ok hempty
  obtain ⟨content, hleft⟩ := hputs.find_file hsource
  obtain ⟨t', hfill⟩ := (h.puts hputs).write content
  refine ⟨t', ?_⟩
  unfold Tree.copy
  rw [hsource, bind_eq_ok]
  refine ⟨_, rfl, ?_⟩
  dsimp only
  rw [hempty, bind_eq_ok]
  refine ⟨_, rfl, ?_⟩
  rw [hleft, bind_eq_ok]
  exact ⟨_, rfl, hfill⟩

end Writable

/-- Whatever is in the first tree is in the second one. -/
structure Grows (t t' : Tree) : Prop where
  current_eq : t'.current = t.current
  node : ∀ l n, t.node? l = some n → t'.node? l = some n

namespace Grows

theorem refl (t : Tree) : Grows t t := ⟨rfl, fun _ _ h => h⟩

theorem trans {u : Tree} (h : Grows t u) (h' : Grows u t') : Grows t t' :=
  ⟨h'.current_eq.trans h.current_eq, fun l n hl => h'.node l n (h.node l n hl)⟩

theorem keeps (h : Grows t t') : Keeps t t' := ⟨h.current_eq, fun l hl => h.node l .directory hl⟩

theorem find_file (h : Grows t t') (hfind : t.find p = .ok (.file c))
    : t'.find p = .ok (.file c) := by
  obtain ⟨l, hlocate, hnode, hslashed⟩ := find_eq_file.mp hfind
  exact find_eq_file.mpr ⟨l, h.keeps.locate hlocate, h.node l _ hnode, hslashed⟩

end Grows

theorem grows_of_makeDirectory (h : t.makeDirectory p = .ok t') : Grows t t' := by
  unfold makeDirectory at h
  obtain ⟨l, -, h⟩ := bind_eq_ok.mp h
  cases hnode : t.node? l with
  | some n =>
    rw [hnode] at h
    exact absurd h throw_ne_ok
  | none =>
    rw [hnode] at h
    obtain rfl := pure_eq_ok.mp h
    refine ⟨rfl, fun l' n hn => ?_⟩
    have hroot : l ≠ [] := by
      rintro rfl
      cases hnode
    rw [node?_put hroot, if_neg, hn]
    rintro rfl
    rw [hnode] at hn
    cases hn

def OnlyAdds {α : Type} (x : StateM Tree α) : Prop := ∀ t, Grows t (x t).2

namespace OnlyAdds

variable {α β : Type}

theorem pure {a : α} : OnlyAdds (Pure.pure a) := fun t => .refl t

theorem bind {x : StateM Tree α} {f : α → StateM Tree β} (hx : OnlyAdds x)
    (hf : ∀ a, OnlyAdds (f a)) : OnlyAdds (x >>= f) :=
  fun t => (hx t).trans (hf (x t).1 (x t).2)

theorem makeDirectory {path : String} : OnlyAdds (FileSystem.makeDirectory path) := by
  intro t
  have hmade : (FileSystem.makeDirectory path : StateM Tree _) t =
    Tree.change (·.makeDirectory ⟨path⟩) t := rfl
  rw [hmade]
  unfold Tree.change
  dsimp only
  cases h : t.makeDirectory ⟨path⟩ with
  | error e => exact .refl t
  | ok t' => exact grows_of_makeDirectory h

theorem composes : Composes (m := StateM Tree) (n := StateM Tree) fun _ x _ => OnlyAdds x where
  pure _ := .pure
  bind := .bind
  isDirectory _ t := .refl t
  makeDirectory _ := .makeDirectory

theorem createDirectories (path : String) : OnlyAdds (Disk.createDirectories path) :=
  composes.createDirectories path

end OnlyAdds

inductive Wrote (directory : String) (base : Location) : List (String × Content) → Tree → Tree → Prop
  | nil (t : Tree) : Wrote directory base [] t t
  | cons {name : String} {c : Content} {files : List (String × Content)} {t u t' : Tree}
      (hlocate : t.locate ⟨Path.join directory name⟩ = .ok (base ++ [name]))
      (hputs : Puts t u (base ++ [name]) c) (hrest : Wrote directory base files u t')
      : Wrote directory base ((name, c) :: files) t t'

namespace Wrote

variable {directory : String} {base : Location} {files files' : List (String × Content)}

theorem append {u : Tree} (h : Wrote directory base files t u)
    (h' : Wrote directory base files' u t') : Wrote directory base (files ++ files') t t' := by
  induction h with
  | nil => exact h'
  | cons hlocate hputs _ ih => exact .cons hlocate hputs (ih h')

theorem keeps (h : Wrote directory base files t t') : Keeps t t' := by
  induction h with
  | nil => exact .refl _
  | cons _ hputs _ ih => exact hputs.keeps.trans ih

theorem locate {name : String} (h : Wrote directory base files t t') (hfile : (name, c) ∈ files)
    : t'.locate ⟨Path.join directory name⟩ = .ok (base ++ [name]) := by
  induction h with
  | nil => cases hfile
  | cons hlocate hputs hrest ih =>
    rcases List.mem_cons.mp hfile with heq | hfile
    . cases heq
      exact (hputs.keeps.trans hrest.keeps).locate hlocate
    . exact ih hfile

theorem node?_of_forall_ne (h : Wrote directory base files t t')
    (hl : ∀ file ∈ files, l ≠ base ++ [file.1]) : t'.node? l = t.node? l := by
  induction h with
  | nil => rfl
  | cons _ hputs _ ih =>
    rw [List.forall_mem_cons] at hl
    rw [ih hl.2, hputs.node?_eq, if_neg hl.1]

theorem node?_of_ne {name : String} (h : Wrote directory base files t t')
    (hname : p.fileName? = some name) (hlocate : t.locate p = .ok l)
    (hfile : t.node? l = some (.file c)) (hother : l ≠ base ++ [name])
    : t'.node? l = some (.file c) := by
  obtain ⟨parent, rfl⟩ := eq_append_of_fileName? hname hlocate hfile
  rw [h.node?_of_forall_ne, hfile]
  rintro file - heq
  exact hother (by rw [(List.append_inj' heq rfl).1])

theorem find_last {name : String} (front : List (String × Content))
    {back : List (String × Content)} (hname : IsFileName name)
    (h : Wrote directory base (front ++ (name, c) :: back) t t')
    (hback : ∀ file ∈ back, file.1 ≠ name)
    : t'.find ⟨Path.join directory name⟩ = .ok (.file c) := by
  induction front generalizing t with
  | nil =>
    obtain _ | ⟨hlocate, hputs, hrest⟩ := h
    refine find_eq_file.mpr ⟨base ++ [name], (hputs.keeps.trans hrest.keeps).locate hlocate, ?_,
      Path.not_slashed_join directory hname⟩
    have hother : ∀ file ∈ back, base ++ [name] ≠ base ++ [file.1] := by
      intro file hfile heq
      exact hback file hfile (by simpa using heq.symm)
    rw [hrest.node?_of_forall_ne hother, hputs.node?_eq, if_pos rfl]
  | cons file front ih =>
    obtain _ | ⟨-, -, hrest⟩ := h
    exact ih hrest

end Wrote

end PulpGame.Disk.Tree
