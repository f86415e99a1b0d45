import DocSnippets.Files.Ignore.Pattern

/-!
# DocSnippets.Files.Ignore.Rules

**Which paths the exclusion patterns exclude.** The last pattern that matches a path decides; one
that matches it through a folder mark yields to an earlier one that matches without.
-/

namespace DocSnippets

namespace Ignore

/-- The rules of pattern lines, in order. -/
def ofPatterns : List Text → Except Fault (List Rule)
  | [] => .ok []
  | pattern :: rest => do
    let rule ← Rule.ofLine pattern
    let rules ← ofPatterns rest
    return rule.toList ++ rules

theorem ofPatterns_cons (pattern : Text) (rest : List Text) :
    ofPatterns (pattern :: rest) =
      match Rule.ofLine pattern with
      | .error f => .error f
      | .ok rule =>
        match ofPatterns rest with
        | .error f => .error f
        | .ok rules => .ok (rule.toList ++ rules) := by
  simp only [ofPatterns]
  cases Rule.ofLine pattern with
  | error f => rfl
  | ok rule => cases ofPatterns rest <;> rfl

/-- A path without the slashes around it and without one step to the folder itself. -/
def normalize (path : Text) : Text :=
  match path.strip (· == '/') with
  | '.' :: '/' :: rest => rest
  | t => t

/-- The rules that a path matches, the last one first, with whether the folder mark was met. -/
def hits (rules : List Rule) (path : Text) : List (Rule × Bool) :=
  rules.reverse.filterMap fun rule => (rule.ask.test path).map (rule, ·)

/-- The rule that decides about a path. -/
def deciding? (rules : List Rule) (path : Text) : Option Rule :=
  let found := hits rules path
  ((found.find? fun hit => !hit.2).or found.head?).map (·.1)

/-- Whether the rules exclude a path. -/
def excludes (rules : List Rule) (path : Text) : Bool :=
  if path.strip (· == '/') = [] then false
  else ((deciding? rules (normalize path)).map (·.excludes)).getD false

theorem excludes_of_no_match {rules : List Rule} {path : Text}
    (h : ∀ rule ∈ rules, rule.ask.test (normalize path) = none) : excludes rules path = false := by
  have : hits rules (normalize path) = [] := by
    simp only [hits, List.filterMap_eq_nil_iff, List.mem_reverse]
    intro rule hr
    simp [h rule hr]
  unfold excludes deciding?
  split <;> simp [this]

@[simp] theorem excludes_nil (path : Text) : excludes [] path = false :=
  excludes_of_no_match (by simp)

end Ignore

end DocSnippets
