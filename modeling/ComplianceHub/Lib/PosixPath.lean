import ComplianceHub.Lib.Separated

/-!
# Paths of slashes and dots

Over any alphabet with a separator `sep` and a dot.

* `walk` : a list of segments followed from a directory, where empty ones and single dots stay and double dots go up;
* `Plain` : segments that are followed as they are written (`walk_of_plain`, `Plain.walk`);
* `render` : the absolute path of a directory, which reads back as it was written (`walk_splitOn_render`);
* `joinPaths`, `resolve` : the path that a sequence of paths leads to (`resolve_render`, `resolve_pair`);
* `below_iff` : the text of a path begins with that of a directory and a separator exactly if it leads below it.
-/

namespace ComplianceHub.Lib

variable {α : Type}

/-- The absolute path of a directory. -/
def render (sep : α) (dir : List (List α)) : List α := if dir = [] then [sep] else dir.flatMap (sep :: ·)

/-- Segments that are followed as they are written. -/
def Plain (sep dot : α) (segments : List (List α)) : Prop :=
  ∀ s ∈ segments, s ≠ [] ∧ s ≠ [dot] ∧ s ≠ [dot, dot] ∧ sep ∉ s

variable {sep dot : α} {dir dir' segments : List (List α)}

theorem Plain.append (h : Plain sep dot dir) (h' : Plain sep dot segments) : Plain sep dot (dir ++ segments) := by
  intro s hs
  rcases List.mem_append.mp hs with hs | hs
  · exact h s hs
  · exact h' s hs

theorem head?_render (sep : α) (dir : List (List α)) : (render sep dir).head? = some sep := by
  unfold render
  cases dir with
  | nil => rfl
  | cons s dir => rfl

theorem render_ne_nil (sep : α) (dir : List (List α)) : render sep dir ≠ [] := by
  intro h
  have hhead := head?_render sep dir
  rw [h] at hhead
  cases hhead

variable [DecidableEq α]

/-- A segment followed from a directory. -/
def follow (dot : α) (dir : List (List α)) (segment : List α) : List (List α) :=
  if segment = [] ∨ segment = [dot] then dir else if segment = [dot, dot] then dir.dropLast else dir ++ [segment]

def walk (dot : α) (dir segments : List (List α)) : List (List α) := segments.foldl (follow dot) dir

/-- Each path continues the one before it, or starts again where it is absolute. -/
def joinPaths (sep : α) (paths : List (List α)) : List α :=
  paths.foldl (fun joined path =>
    if path = [] then joined else if path.head? = some sep then path else joined ++ sep :: path) []

/-- The absolute path that a sequence of paths leads to. -/
def resolve (sep dot : α) (paths : List (List α)) : List α :=
  render sep (walk dot [] ((joinPaths sep paths).splitOn sep))

theorem Plain.follow (h : Plain sep dot dir) {segment : List α} (hsegment : sep ∉ segment) :
    Plain sep dot (follow dot dir segment) := by
  unfold Lib.follow
  split_ifs with hstay hup
  · exact h
  · exact fun s hs => h s ((List.dropLast_sublist dir).subset hs)
  · refine h.append fun s hs => ?_
    rw [List.mem_singleton.mp hs]
    exact ⟨fun hempty => hstay (.inl hempty), fun hdot => hstay (.inr hdot), hup, hsegment⟩

theorem Plain.walk (h : Plain sep dot dir) (hsegments : ∀ s ∈ segments, sep ∉ s) :
    Plain sep dot (walk dot dir segments) := by
  induction segments generalizing dir with
  | nil => exact h
  | cons s segments ih =>
    exact ih (h.follow (hsegments s List.mem_cons_self)) fun other hother => hsegments other (List.mem_cons_of_mem _ hother)

theorem walk_of_plain (h : Plain sep dot segments) (dir : List (List α)) : walk dot dir segments = dir ++ segments := by
  induction segments generalizing dir with
  | nil => exact (List.append_nil dir).symm
  | cons s segments ih =>
    obtain ⟨hempty, hdot, hdots, -⟩ := h s List.mem_cons_self
    have hfollow : follow dot dir s = dir ++ [s] := by
      unfold follow
      rw [if_neg (by simp [hempty, hdot]), if_neg hdots]
    have hrest := ih (fun other hother => h other (List.mem_cons_of_mem _ hother)) (dir ++ [s])
    unfold walk at hrest ⊢
    rw [List.foldl_cons, hfollow, hrest, List.append_assoc, List.singleton_append]

theorem walk_append (segments' : List (List α)) :
    walk dot dir (segments ++ segments') = walk dot (walk dot dir segments) segments' :=
  List.foldl_append

theorem walk_empty (dot : α) (dir : List (List α)) : walk dot dir [[]] = dir := by
  show follow dot dir [] = dir
  unfold follow
  exact if_pos (.inl rfl)

/-! ## The text of a path -/

theorem splitOn_flatMap (h : ∀ s ∈ dir, sep ∉ s) : (dir.flatMap (sep :: ·)).splitOn sep = [] :: dir := by
  induction dir with
  | nil => exact List.splitOn_nil sep
  | cons s dir ih =>
    have hs : sep ∉ s := h s List.mem_cons_self
    have hrest := ih fun other hother => h other (List.mem_cons_of_mem _ hother)
    rw [List.flatMap_cons, List.cons_append, ← List.nil_append (sep :: _), List.splitOn_append_cons_self, List.splitOn_nil]
    cases dir with
    | nil => rw [List.flatMap_nil, List.append_nil, List.splitOn_eq_singleton hs, List.singleton_append]
    | cons next dir =>
      rw [List.flatMap_cons, List.cons_append] at hrest ⊢
      rw [← List.nil_append (sep :: _), List.splitOn_append_cons_self, List.splitOn_nil, List.singleton_append,
        List.cons_inj_right] at hrest
      rw [List.cons_append, List.splitOn_append_cons_self_of_not_mem hs, hrest, List.nil_append]

theorem splitOn_render (h : Plain sep dot dir) : (render sep dir).splitOn sep = [] :: (if dir = [] then [[]] else dir) := by
  unfold render
  split_ifs with hroot
  · rw [← List.nil_append [sep], List.splitOn_append_cons_self, List.splitOn_nil, List.singleton_append]
  · exact splitOn_flatMap fun s hs => (h s hs).2.2.2

/-- The path of a directory leads to it. -/
theorem walk_splitOn_render (h : Plain sep dot dir) : walk dot [] ((render sep dir).splitOn sep) = dir := by
  rw [splitOn_render h, ← List.singleton_append, walk_append, walk_empty]
  split_ifs with hroot
  · rw [walk_empty, hroot]
  · exact (walk_of_plain h []).trans (List.nil_append dir)

theorem render_injective (h : Plain sep dot dir) (h' : Plain sep dot dir') (heq : render sep dir = render sep dir') :
    dir = dir' := by
  rw [← walk_splitOn_render h, ← walk_splitOn_render h', heq]

/-- Where a path is followed from. -/
def start (sep : α) (dir : List (List α)) (path : List α) : List (List α) := if path.head? = some sep then [] else dir

/-- A path is followed from a directory, or from the root where it is absolute. -/
theorem resolve_render (h : Plain sep dot dir) (cwd path : List α) :
    resolve sep dot [cwd, render sep dir, path] = render sep (walk dot (start sep dir path) (path.splitOn sep)) := by
  have hbase : ∀ joined : List α, (if render sep dir = [] then joined else if (render sep dir).head? = some sep then
      render sep dir else joined ++ sep :: render sep dir) = render sep dir := by
    intro joined
    rw [if_neg (render_ne_nil sep dir), if_pos (head?_render sep dir)]
  unfold resolve joinPaths start
  rw [List.foldl_cons, List.foldl_cons, List.foldl_cons, List.foldl_nil, hbase]
  by_cases hempty : path = []
  · rw [if_pos hempty, walk_splitOn_render h, hempty, if_neg (by simp), List.splitOn_nil, walk_empty]
  · rw [if_neg hempty]
    split_ifs with habsolute
    · rfl
    · rw [List.splitOn_append_cons_self, walk_append, walk_splitOn_render h]

theorem resolve_pair (h : Plain sep dot dir) (cwd : List α) : resolve sep dot [cwd, render sep dir] = render sep dir := by
  unfold resolve joinPaths
  rw [List.foldl_cons, List.foldl_cons, List.foldl_nil, if_neg (render_ne_nil sep dir), if_pos (head?_render sep dir),
    walk_splitOn_render h]

/-- The segments of a text lead to a directory. -/
theorem plain_walk_splitOn (h : Plain sep dot dir) (path : List α) : Plain sep dot (walk dot dir (path.splitOn sep)) :=
  h.walk fun _ hs => notMem_of_mem_splitOn hs

/-- The text of a path begins with that of a directory and a separator exactly if the path leads below the directory. The
text of the disk ends with a separator already. -/
theorem below_iff (hdir : Plain sep dot dir) (hdir' : Plain sep dot dir') :
    (render sep dir ++ [sep]) <+: render sep dir' ↔ dir ≠ [] ∧ ∃ rest, rest ≠ [] ∧ dir' = dir ++ rest := by
  constructor
  · rintro ⟨rest, hrest⟩
    have hread : (render sep dir).splitOn sep ++ rest.splitOn sep = (render sep dir').splitOn sep := by
      rw [← List.splitOn_append_cons_self, ← hrest, List.append_assoc, List.singleton_append]
    rw [splitOn_render hdir, splitOn_render hdir', List.cons_append, List.cons_inj_right] at hread
    have hsome : rest.splitOn sep ≠ [] := List.splitOn_ne_nil sep rest
    split_ifs at hread with hroot hroot' hroot'
    · exact absurd (List.cons_inj_right _ |>.mp hread) hsome
    · rw [← hread] at hdir'
      exact absurd rfl (hdir' [] List.mem_cons_self).1
    · obtain ⟨s, dir, rfl⟩ := List.exists_cons_of_ne_nil hroot
      rw [List.cons_append, List.cons.injEq] at hread
      exact absurd hread.1 (hdir s List.mem_cons_self).1
    · exact ⟨hroot, rest.splitOn sep, hsome, hread.symm⟩
  · rintro ⟨hroot, rest, hrest, rfl⟩
    obtain ⟨s, rest, rfl⟩ := List.exists_cons_of_ne_nil hrest
    refine ⟨s ++ rest.flatMap (sep :: ·), ?_⟩
    unfold render
    rw [if_neg hroot, if_neg (by simp), List.flatMap_append, List.flatMap_cons, List.append_assoc, List.singleton_append,
      List.cons_append]

end ComplianceHub.Lib
