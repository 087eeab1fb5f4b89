import Covenant.Proofs.Route.Canonical

/-!
# Canonical paths as a normal form

`canonicalJoin` cuts its components at `/` and cleans the parts on a stack: `..` pops a name
and is pushed on an empty stack or on another `..`. The stack is therefore always names above a
run of `..` (`Stack`, preserved by `stack_cleanStep`), and cleaning the parts of such a stack,
bottom first, builds the same stack again (`foldl_cleanStep_reverse`).

Main statement: `canonicalJoin_normal_form`. The canonical text is the join of a run of `..`
and names, which splitting gives back; cleaning that text again gives the stack it was joined
from, so a canonical text may stand for the components it was cleaned from, in front of any
further components, and cleaning is idempotent. Components that are all names are joined as
they are, so different such lists are never joined alike.
-/

namespace Covenant.Route

/-- A part that names an entry: not empty, neither `.` nor `..`, and without `/`. -/
def NamePart (part : String) : Prop :=
  part ≠ "" ∧ part ≠ "." ∧ part ≠ ".." ∧ '/' ∉ part.toList

/-- A cleaning stack, top first: names above a run of `..`. -/
def Stack (stack : List String) : Prop :=
  ∃ names n, (∀ p ∈ names, NamePart p) ∧ stack = names ++ List.replicate n ".."

theorem stack_nil : Stack [] := ⟨[], 0, by simp, rfl⟩

/-! ## One step and a run -/

/-- A name is pushed onto the stack. -/
theorem cleanStep_name {part : String} (h : NamePart part) (stack : List String) :
    cleanStep stack part = part :: stack := by
  obtain ⟨hempty, hdot, hparent, -⟩ := h
  simp [cleanStep, hempty, hdot, hparent]

/-- `..` on a run of `..` lengthens the run. -/
theorem cleanStep_parent_replicate (n : Nat) :
    cleanStep (List.replicate n "..") ".." = List.replicate (n + 1) ".." := by
  cases n with
  | zero => rfl
  | succ n => simp [cleanStep, List.replicate_succ]

/-- Cleaning a part without `/` keeps the stack's shape. The cases are the part's kinds:
skipped, `..` popping a name or lengthening the run, and a name pushed. -/
theorem stack_cleanStep {stack : List String} (hstack : Stack stack) {part : String}
    (hpart : '/' ∉ part.toList) : Stack (cleanStep stack part) := by
  obtain ⟨names, n, hnames, rfl⟩ := hstack
  by_cases hskip : part = "" ∨ part = "."
  · have hsame : cleanStep (names ++ List.replicate n "..") part =
        names ++ List.replicate n ".." := by simp [cleanStep, hskip]
    rw [hsame]
    exact ⟨names, n, hnames, rfl⟩
  · by_cases hparent : part = ".."
    · subst hparent
      cases names with
      | nil =>
        rw [List.nil_append, cleanStep_parent_replicate]
        exact ⟨[], n + 1, by simp, rfl⟩
      | cons top names =>
        -- the top is a name, which `..` pops
        have htop : top ≠ ".." := (hnames top List.mem_cons_self).2.2.1
        refine ⟨names, n, fun p hp => hnames p (List.mem_cons_of_mem top hp), ?_⟩
        simp [cleanStep, htop]
    · have hname : NamePart part := by
        simp only [not_or] at hskip
        exact ⟨hskip.1, hskip.2, hparent, hpart⟩
      rw [cleanStep_name hname]
      refine ⟨part :: names, n, ?_, rfl⟩
      simpa [hname] using hnames

/-- Cleaning parts without `/` keeps the stack's shape. -/
theorem stack_foldl {stack : List String} (hstack : Stack stack) {parts : List String}
    (hparts : ∀ p ∈ parts, '/' ∉ p.toList) : Stack (parts.foldl cleanStep stack) := by
  induction parts generalizing stack with
  | nil => exact hstack
  | cons part rest ih =>
    exact ih (stack_cleanStep hstack (hparts part List.mem_cons_self))
      fun p hp => hparts p (List.mem_cons_of_mem part hp)

/-- Names are pushed in turn. -/
theorem foldl_cleanStep_names {names : List String} (h : ∀ p ∈ names, NamePart p)
    (stack : List String) : names.foldl cleanStep stack = names.reverse ++ stack := by
  induction names generalizing stack with
  | nil => rfl
  | cons part rest ih =>
    rw [List.foldl_cons, cleanStep_name (h part List.mem_cons_self),
      ih (fun p hp => h p (List.mem_cons_of_mem part hp))]
    simp

theorem foldl_cleanStep_replicate (n k : Nat) :
    (List.replicate n "..").foldl cleanStep (List.replicate k "..") =
      List.replicate (k + n) ".." := by
  induction n generalizing k with
  | zero => rfl
  | succ n ih =>
    rw [List.replicate_succ, List.foldl_cons, cleanStep_parent_replicate, ih]
    congr 1
    omega

/-- Cleaning the parts of a stack, bottom first, builds the stack again. -/
theorem foldl_cleanStep_reverse {stack : List String} (h : Stack stack) :
    stack.reverse.foldl cleanStep [] = stack := by
  obtain ⟨names, n, hnames, rfl⟩ := h
  have hrev : ∀ p ∈ names.reverse, NamePart p := fun p hp => hnames p (List.mem_reverse.mp hp)
  rw [List.reverse_append, List.reverse_replicate, List.foldl_append,
    show ([] : List String) = List.replicate 0 ".." from rfl, foldl_cleanStep_replicate,
    foldl_cleanStep_names hrev]
  simp

/-! ## The canonical text -/

/-- The parts of components cut at `/`. -/
theorem notMem_of_mem_parts {components : List String} {p : String}
    (h : p ∈ components.flatMap (·.splitOn "/")) : '/' ∉ p.toList := by
  obtain ⟨c, -, hp⟩ := List.mem_flatMap.mp h
  exact Text.notMem_of_mem_splitOn rfl hp

/-- The stack cleaning leaves for some components. -/
theorem stack_cleaned (components : List String) :
    Stack ((components.flatMap (·.splitOn "/")).foldl cleanStep []) :=
  stack_foldl stack_nil fun _ hp => notMem_of_mem_parts hp

/-- The parts of a stack hold no `/`. -/
theorem notMem_of_stack {stack : List String} (h : Stack stack) :
    ∀ p ∈ stack, '/' ∉ p.toList := by
  obtain ⟨names, n, hnames, rfl⟩ := h
  intro p hp
  rcases List.mem_append.mp hp with hp | hp
  · exact (hnames p hp).2.2.2
  · rw [List.eq_of_mem_replicate hp]
    decide

/-- Splitting the join of a stack's parts and cleaning them again gives the stack back; an
empty stack is joined as the empty text, whose one empty part is skipped. -/
theorem foldl_cleanStep_splitOn_intercalate {stack : List String} (h : Stack stack) :
    (("/".intercalate stack.reverse).splitOn "/").foldl cleanStep [] = stack := by
  by_cases hnil : stack = []
  · subst hnil
    simp [splitOn_slash, cleanStep]
  · rw [Text.splitOn_intercalate_of_notMem "/" rfl
      (fun p hp => notMem_of_stack h p (List.mem_reverse.mp hp)) (by simpa using hnil)]
    exact foldl_cleanStep_reverse h

/-- Cleaning the canonical text again gives the stack it was joined from. -/
theorem foldl_cleanStep_canonicalJoin (components : List String) :
    ((canonicalJoin components).splitOn "/").foldl cleanStep [] =
      (components.flatMap (·.splitOn "/")).foldl cleanStep [] := by
  rw [canonicalJoin_eq]
  exact foldl_cleanStep_splitOn_intercalate (stack_cleaned components)

/-- A canonical text stands for the components it was cleaned from, in front of any further
components. -/
theorem canonicalJoin_append (xs ys : List String) :
    canonicalJoin (xs ++ ys) = canonicalJoin ([canonicalJoin xs] ++ ys) := by
  rw [canonicalJoin_eq, canonicalJoin_eq, List.flatMap_append, List.flatMap_append,
    List.foldl_append, List.foldl_append, List.flatMap_singleton, foldl_cleanStep_canonicalJoin]

/-- The canonical text is the join of a run of `..` followed by names. -/
theorem exists_canonicalJoin_eq (components : List String) :
    ∃ n names, (∀ p ∈ names, NamePart p) ∧
      canonicalJoin components = "/".intercalate (List.replicate n ".." ++ names) := by
  obtain ⟨names, n, hnames, hstack⟩ := stack_cleaned components
  refine ⟨n, names.reverse, fun p hp => hnames p (List.mem_reverse.mp hp), ?_⟩
  rw [canonicalJoin_eq, hstack, List.reverse_append, List.reverse_replicate]

/-- A run of `..` followed by names splits back into its parts, unless there are none. -/
theorem splitOn_intercalate_cleaned {n : Nat} {names : List String}
    (h : ∀ p ∈ names, NamePart p) (hne : List.replicate n ".." ++ names ≠ []) :
    ("/".intercalate (List.replicate n ".." ++ names)).splitOn "/" =
      List.replicate n ".." ++ names := by
  have hstack : Stack (names.reverse ++ List.replicate n "..") :=
    ⟨names.reverse, n, fun p hp => h p (List.mem_reverse.mp hp), rfl⟩
  refine Text.splitOn_intercalate_of_notMem "/" rfl (fun p hp => ?_) hne
  refine notMem_of_stack hstack p ?_
  rcases List.mem_append.mp hp with hp | hp
  · exact List.mem_append_right _ hp
  · exact List.mem_append_left _ (List.mem_reverse.mpr hp)

/-- Components that are all names are joined as they are. -/
theorem canonicalJoin_of_names {components : List String}
    (h : ∀ c ∈ components, NamePart c) : canonicalJoin components = "/".intercalate components := by
  have hfilter : components.filter isPlain = components := by
    refine List.filter_eq_self.mpr fun c hc => ?_
    obtain ⟨hempty, hdot, -, -⟩ := h c hc
    simpa using ⟨hempty, hdot⟩
  rw [canonicalJoin_of_plain components (fun c hc => (h c hc).2.2.2)
    (fun hmem => (h ".." hmem).2.2.1 rfl), hfilter]

/-- Different lists of names are never joined alike. -/
theorem canonicalJoin_inj_of_names {xs ys : List String} (hx : ∀ x ∈ xs, NamePart x)
    (hy : ∀ y ∈ ys, NamePart y) (h : canonicalJoin xs = canonicalJoin ys) : xs = ys := by
  rw [canonicalJoin_of_names hx, canonicalJoin_of_names hy] at h
  exact plain_eq_of_intercalate_eq (fun p hp => ⟨(hx p hp).1, (hx p hp).2.2.2⟩)
    (fun p hp => ⟨(hy p hp).1, (hy p hp).2.2.2⟩) h

/-! ## Main statement -/

/-- `canonicalJoin` computes a normal form of `/`-joined paths. A canonical text stands for the
components it was cleaned from in front of any further ones, and cleaning it again changes
nothing. It is the join of a run of `..` followed by names, which splitting gives back (the
empty text joins no parts). On lists of names it is the plain join, so it tells them apart. -/
theorem canonicalJoin_normal_form :
    (∀ xs ys, canonicalJoin (xs ++ ys) = canonicalJoin ([canonicalJoin xs] ++ ys)) ∧
    (∀ xs, canonicalJoin [canonicalJoin xs] = canonicalJoin xs) ∧
    (∀ xs, ∃ n names, (∀ p ∈ names, NamePart p) ∧
      canonicalJoin xs = "/".intercalate (List.replicate n ".." ++ names) ∧
      (List.replicate n ".." ++ names ≠ [] →
        (canonicalJoin xs).splitOn "/" = List.replicate n ".." ++ names)) ∧
    (∀ xs, (∀ x ∈ xs, NamePart x) → canonicalJoin xs = "/".intercalate xs) ∧
    (∀ xs ys, (∀ x ∈ xs, NamePart x) → (∀ y ∈ ys, NamePart y) →
      canonicalJoin xs = canonicalJoin ys → xs = ys) := by
  refine ⟨canonicalJoin_append, fun xs => ?_, fun xs => ?_, fun _ h => canonicalJoin_of_names h,
    fun _ _ hx hy h => canonicalJoin_inj_of_names hx hy h⟩
  · -- idempotence is the case of no further components
    simpa using (canonicalJoin_append xs []).symm
  · obtain ⟨n, names, hnames, hjoin⟩ := exists_canonicalJoin_eq xs
    refine ⟨n, names, hnames, hjoin, fun hne => ?_⟩
    rw [hjoin, splitOn_intercalate_cleaned hnames hne]

theorem users_path_joined_plainly :
    let xs := ["users", "42"]
    (∀ x ∈ xs, NamePart x) ∧ canonicalJoin xs = "/".intercalate xs ∧
      (canonicalJoin xs = canonicalJoin xs → xs = xs) := by
  intro xs
  have hnames : ∀ x ∈ xs, NamePart x := by
    simp [xs, NamePart]
  exact ⟨hnames, canonicalJoin_normal_form.2.2.2.1 xs hnames,
    canonicalJoin_normal_form.2.2.2.2 xs xs hnames hnames⟩

end Covenant.Route
