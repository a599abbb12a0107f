import Mathlib.Data.List.Basic

/-! The cluster name the GKE cloud scanner is configured with. `NewScanner`
takes the project and location from it with `parseInfoFromClusterName`, and
refuses to start when either is empty. The name is split on "/", and any six
parts whose second and fourth are not empty pass: the other parts are not
read, so the words of the documented format `projects/*/locations/*/clusters/*`
are not required (`newScanner_ok_iff`). Names in that format parse back to
their project and location (`newScanner_documented_format`). -/
namespace ImageScan.CloudScan

/-- `strings.Split(s, "/")`. The slash is a byte that occurs in no other
character's UTF-8 encoding, so splitting the bytes splits the characters. -/
def splitSlash (s : String) : List String := (s.data.splitOn '/').map String.mk

/-- `parseInfoFromClusterName`: the second and fourth of exactly six parts,
and two empty strings for any other number of parts. -/
def parseInfoFromClusterName (clusterName : String) : String × String :=
  match splitSlash clusterName with
  | [_, project, _, location, _, _] => (project, location)
  | _ => ("", "")

/-- The error `NewScanner` returns for a name it cannot parse; `quote` is the
`%q` verb of `fmt`. -/
def clusterNameError (quote : String → String) (clusterName : String) : String :=
  "could not parse project and location from cluster name, expected format is `projects/*/locations/*/clusters/*`, actual " ++
    quote clusterName

/-- What `NewScanner` makes of the configured cluster name before it creates
any client: the project and location, or its error. -/
def newScanner (quote : String → String) (clusterName : String) : Except String (String × String) :=
  let info := parseInfoFromClusterName clusterName
  if info.1 = "" ∨ info.2 = "" then .error (clusterNameError quote clusterName)
  else .ok info

/-! ## Splitting on the separator -/

/-- No part of a split holds the separator. -/
theorem not_mem_of_mem_splitOn {α : Type} [DecidableEq α] (x : α) :
    ∀ (xs part : List α), part ∈ xs.splitOn x → x ∉ part
  | [], part, mem => by
    rw [List.splitOn_nil, List.mem_singleton] at mem
    exact mem ▸ List.not_mem_nil x
  | y :: ys, part, mem => by
    have rest := not_mem_of_mem_splitOn x ys
    unfold List.splitOn at mem rest
    rw [List.splitOnP_cons] at mem
    split at mem
    · rcases List.mem_cons.1 mem with rfl | mem
      · exact List.not_mem_nil x
      · exact rest part mem
    · rename_i other
      cases parts : ys.splitOnP (· == x) with
      | nil => exact absurd parts (List.splitOnP_ne_nil _ _)
      | cons first tail =>
        rw [parts] at mem rest
        rcases List.mem_cons.1 mem with rfl | mem
        · rintro (_ | ⟨_, inFirst⟩)
          · exact other (beq_self_eq_true x)
          · exact rest first (List.mem_cons_self _ _) inFirst
        · exact rest part (List.mem_cons_of_mem _ mem)

theorem not_mem_of_mem_splitSlash {s part : String} (mem : part ∈ splitSlash s) : '/' ∉ part.data := by
  obtain ⟨chars, split, rfl⟩ := List.mem_map.1 mem
  exact not_mem_of_mem_splitOn '/' s.data chars split

/-- Six parts joined by slashes. -/
theorem data_six_parts (a b c d e f : String) :
    (a ++ "/" ++ b ++ "/" ++ c ++ "/" ++ d ++ "/" ++ e ++ "/" ++ f).data =
      ['/'].intercalate [a.data, b.data, c.data, d.data, e.data, f.data] := by
  simp [List.intercalate, List.intersperse]

/-- Six parts without a slash, joined by slashes, split back into themselves. -/
theorem splitSlash_six_parts {a b c d e f : String} (slashless : ∀ part ∈ [a, b, c, d, e, f], '/' ∉ part.data) :
    splitSlash (a ++ "/" ++ b ++ "/" ++ c ++ "/" ++ d ++ "/" ++ e ++ "/" ++ f) = [a, b, c, d, e, f] := by
  unfold splitSlash
  rw [data_six_parts, List.splitOn_intercalate _ '/' (by simpa using slashless) (List.cons_ne_nil _ _)]
  rfl

/-- A name that splits into six parts is those parts joined by slashes. -/
theorem eq_six_parts {s a b c d e f : String} (split : splitSlash s = [a, b, c, d, e, f]) :
    s = a ++ "/" ++ b ++ "/" ++ c ++ "/" ++ d ++ "/" ++ e ++ "/" ++ f := by
  have parts : s.data.splitOn '/' = [a.data, b.data, c.data, d.data, e.data, f.data] := by
    simpa [splitSlash, List.map_map, Function.comp_def] using congrArg (List.map String.data) split
  rw [String.ext_iff, data_six_parts, ← parts, List.intercalate_splitOn]

/-- The parse is the second and fourth of six parts, or two empty strings. -/
theorem parseInfoFromClusterName_cases (clusterName : String) :
    (∃ a b c d project location, splitSlash clusterName = [a, project, b, location, c, d] ∧
      parseInfoFromClusterName clusterName = (project, location)) ∨
    parseInfoFromClusterName clusterName = ("", "") := by
  unfold parseInfoFromClusterName
  split
  · rename_i a project b location c d split
    exact .inl ⟨a, b, c, d, project, location, split, rfl⟩
  · exact .inr rfl

/-! ## What `NewScanner` accepts -/

/-- Every refusal carries the message naming the configured cluster name. -/
theorem newScanner_error (quote : String → String) {clusterName e : String}
    (refused : newScanner quote clusterName = .error e) : e = clusterNameError quote clusterName := by
  unfold newScanner at refused
  dsimp only at refused
  split at refused
  · exact (Except.error.inj refused).symm
  · cases refused

/-- `NewScanner` accepts a cluster name exactly when it is six parts joined by
slashes, none holding a slash, whose second and fourth are not empty; these
are the project and location it takes. Nothing else of the name is checked. -/
theorem newScanner_ok_iff (quote : String → String) (clusterName project location : String) :
    newScanner quote clusterName = .ok (project, location) ↔
      project ≠ "" ∧ location ≠ "" ∧
      ∃ a b c d : String, (∀ part ∈ [a, project, b, location, c, d], '/' ∉ part.data) ∧
        clusterName = a ++ "/" ++ project ++ "/" ++ b ++ "/" ++ location ++ "/" ++ c ++ "/" ++ d := by
  constructor
  · intro accepted
    unfold newScanner at accepted
    dsimp only at accepted
    split at accepted
    · cases accepted
    · rename_i named
      have parsed := Except.ok.inj accepted
      rw [parsed] at named
      obtain ⟨named, located⟩ := not_or.1 named
      rcases parseInfoFromClusterName_cases clusterName with ⟨a, b, c, d, p, l, split, same⟩ | empty
      · rw [parsed] at same
        cases same
        exact ⟨named, located, a, b, c, d, fun part mem => not_mem_of_mem_splitSlash (split ▸ mem),
          eq_six_parts split⟩
      · rw [parsed] at empty
        exact absurd (Prod.mk.inj empty).1 named
  · rintro ⟨named, located, a, b, c, d, slashless, rfl⟩
    have parsed : parseInfoFromClusterName
        (a ++ "/" ++ project ++ "/" ++ b ++ "/" ++ location ++ "/" ++ c ++ "/" ++ d) = (project, location) := by
      unfold parseInfoFromClusterName
      rw [splitSlash_six_parts slashless]
    simp only [newScanner, parsed, named, located, or_self, if_false]

/-- A name in the documented format `projects/*/locations/*/clusters/*`, with a
project and a location, parses back to them. -/
theorem newScanner_documented_format (quote : String → String) {project location cluster : String}
    (named : project ≠ "") (located : location ≠ "")
    (slashless : ∀ part ∈ [project, location, cluster], '/' ∉ part.data) :
    newScanner quote ("projects/" ++ project ++ "/locations/" ++ location ++ "/clusters/" ++ cluster) =
      .ok (project, location) := by
  have words : "projects/" ++ project ++ "/locations/" ++ location ++ "/clusters/" ++ cluster =
      "projects" ++ "/" ++ project ++ "/" ++ "locations" ++ "/" ++ location ++ "/" ++ "clusters" ++ "/" ++
        cluster := by
    simp only [String.ext_iff, String.data_append, List.append_assoc]
    rfl
  rw [words]
  refine (newScanner_ok_iff quote _ project location).2 ⟨named, located, _, _, _, _, ?_, rfl⟩
  simp only [List.forall_mem_cons, List.forall_mem_singleton] at slashless ⊢
  obtain ⟨inProject, inLocation, inCluster⟩ := slashless
  exact ⟨by decide, inProject, by decide, inLocation, by decide, inCluster⟩

/-- The project and location of a GKE cluster's full name. -/
theorem newScanner_documented_format_europe :
    ("my-project" ≠ "" ∧ "europe-west1" ≠ "" ∧ ∀ part ∈ ["my-project", "europe-west1", "prod"], '/' ∉ part.data) ∧
    newScanner id ("projects/" ++ "my-project" ++ "/locations/" ++ "europe-west1" ++ "/clusters/" ++ "prod") =
      .ok ("my-project", "europe-west1") :=
  ⟨⟨by decide, by decide, by decide⟩, newScanner_documented_format id (by decide) (by decide) (by decide)⟩

end ImageScan.CloudScan
