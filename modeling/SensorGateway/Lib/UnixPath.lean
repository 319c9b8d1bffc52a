import SensorGateway.Lib.Lines

/-! Unix paths as texts: how one is joined to another, and which place of the file tree it names. `.`
and `..` are resolved in the text; links are left out. -/

namespace SensorGateway.Lib.UnixPath
open Lines

/-- The names from the root down. -/
abbrev Place := List Text

def isAbsolute (path : Text) : Bool := path.head? = some '/'

/-- An absolute path replaces the one it is joined to. -/
def join (base path : Text) : Text :=
  if isAbsolute path then path
  else if base = [] ∨ base.getLast? = some '/' then base ++ path
  else base ++ '/' :: path

/-- One component further. The root is its own parent. -/
def enter (place : Place) (component : Text) : Place :=
  if component = [] ∨ component = ['.'] then place
  else if component = ['.', '.'] then place.dropLast
  else place ++ [component]

def resolve (start : Place) (path : Text) : Place :=
  (path.splitOn '/').foldl enter (if isAbsolute path then [] else start)

/-- The path up to its last slash. -/
def folder (path : Text) : Text := path.rdropWhile (· != '/')

def fileName (path : Text) : Text := path.rtakeWhile (· != '/')

/-- A component that names something of its own. -/
structure Ordinary (component : Text) : Prop where
  nonempty : component ≠ []
  here : component ≠ ['.']
  parent : component ≠ ['.', '.']

theorem enter_ordinary (place : Place) {component : Text} (ordinary : Ordinary component) :
    enter place component = place ++ [component] := by
  have named : ¬(component = [] ∨ component = ['.']) :=
    fun special => special.elim ordinary.nonempty ordinary.here
  rw [enter, if_neg named, if_neg ordinary.parent]

@[simp] theorem enter_nil (place : Place) : enter place [] = place := by simp [enter]

theorem splitOn_slash (first second : Text) :
    (first ++ '/' :: second).splitOn '/' = first.splitOn '/' ++ second.splitOn '/' :=
  List.splitOnP_append_cons first second rfl

theorem splitOn_component {component : Text} (single : '/' ∉ component) :
    component.splitOn '/' = [component] := by
  apply List.splitOnP_eq_singleton
  intro c member
  exact beq_false_of_ne (fun same => single (same ▸ member))

theorem resolve_nil (start : Place) : resolve start [] = start := by
  simp [resolve, isAbsolute]

/-- A slash at the end changes nothing. -/
theorem resolve_slash (start : Place) {path : Text} (nonempty : path ≠ []) :
    resolve start (path ++ ['/']) = resolve start path := by
  have same : isAbsolute (path ++ ['/']) = isAbsolute path := by
    simp [isAbsolute, List.head?_append_of_ne_nil _ nonempty]
  rw [resolve, resolve, same, splitOn_slash, List.foldl_append]
  simp

/-- A relative path behind a slash is resolved from where the slash has led. -/
theorem resolve_append (start : Place) {base path : Text} (relative : isAbsolute path = false) :
    resolve start (base ++ '/' :: path) = resolve (resolve start (base ++ ['/'])) path := by
  have same : isAbsolute (base ++ '/' :: path) = isAbsolute (base ++ ['/']) := by
    cases base <;> rfl
  rw [resolve, splitOn_slash, List.foldl_append, same]
  simp only [resolve, relative, splitOn_slash, List.foldl_append, Bool.false_eq_true, if_false]
  simp

/-- Joining paths is resolving the one from where the other leads. -/
theorem resolve_join (start : Place) (base path : Text) :
    resolve start (join base path) = resolve (resolve start base) path := by
  unfold join
  cases absolute : isAbsolute path with
  | true => simp [resolve, absolute]
  | false =>
    rw [if_neg Bool.false_ne_true]
    by_cases nothing : base = []
    · rw [nothing, if_pos (Or.inl rfl), List.nil_append, resolve_nil]
    · by_cases slash : base.getLast? = some '/'
      · obtain ⟨front, rfl⟩ := List.getLast?_eq_some_iff.mp slash
        rw [if_pos (Or.inr slash), List.append_assoc]
        exact resolve_append start absolute
      · rw [if_neg (fun either => either.elim nothing slash), resolve_append start absolute,
          resolve_slash start nothing]

theorem slash_not_mem_fileName (path : Text) : '/' ∉ fileName path := by
  intro member
  simpa using List.mem_rtakeWhile_imp member

theorem folder_append_fileName (path : Text) : folder path ++ fileName path = path :=
  List.rdropWhile_append_rtakeWhile

theorem folder_of_no_slash {path : Text} (single : '/' ∉ path) : folder path = [] := by
  rw [folder, List.rdropWhile_eq_nil_iff]
  intro c member
  rw [bne_iff_ne]
  rintro rfl
  exact single member

/-- What is put behind a path goes to its file name. -/
theorem split_suffix (path : Text) {suffix : Text} (single : '/' ∉ suffix) :
    folder (path ++ suffix) = folder path ∧ fileName (path ++ suffix) = fileName path ++ suffix := by
  have inside : ∀ c ∈ suffix.reverse, (c != '/') = true := by
    intro c member
    rw [bne_iff_ne]
    rintro rfl
    exact single (List.mem_reverse.mp member)
  constructor
  · rw [folder, List.rdropWhile, List.reverse_append, List.dropWhile_append_of_pos inside]
    rfl
  · rw [fileName, List.rtakeWhile, List.reverse_append, List.takeWhile_append_of_pos inside,
      List.reverse_append, List.reverse_reverse]
    rfl

theorem folder_ends (path : Text) : folder path = [] ∨ ∃ front, folder path = front ++ ['/'] := by
  by_cases nothing : folder path = []
  · exact Or.inl nothing
  · have last : (folder path).getLast nothing = '/' := by
      by_contra other
      exact List.rdropWhile_last_not (· != '/') path nothing (bne_iff_ne.mpr other)
    right
    refine ⟨(folder path).dropLast, ?_⟩
    rw [← last, List.dropLast_concat_getLast]

/-- A path leads to its file name in its folder. -/
theorem resolve_fileName (start : Place) {path : Text} (ordinary : Ordinary (fileName path)) :
    resolve start path = resolve start (folder path) ++ [fileName path] := by
  have single := slash_not_mem_fileName path
  have relative : isAbsolute (fileName path) = false := by
    cases name : fileName path with
    | nil => rfl
    | cons c rest =>
      simp only [isAbsolute, List.head?_cons, Option.some.injEq, decide_eq_false_iff_not]
      rintro rfl
      exact single (name ▸ List.mem_cons_self)
  have file (place : Place) : resolve place (fileName path) = place ++ [fileName path] := by
    rw [resolve, relative, splitOn_component single]
    exact enter_ordinary place ordinary
  conv_lhs => rw [← folder_append_fileName path]
  obtain nothing | ⟨front, ends⟩ := folder_ends path
  · rw [nothing, List.nil_append, resolve_nil, file]
  · rw [ends, List.append_assoc]
    exact (resolve_append start relative).trans (file _)

end SensorGateway.Lib.UnixPath
