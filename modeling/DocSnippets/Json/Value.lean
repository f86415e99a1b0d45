import DocSnippets.Text.CodePoint

/-!
# DocSnippets.Json.Value

**JSON values.** Numbers keep the characters they are written with, as nothing here computes with
them. An object keeps all its members in order; of members with one name the last one counts, so
later members hide earlier ones (`Json.member?_append`). What is written is made of characters;
what is read may hold halves of characters, so it is made of code points, and `Json.wide` says what
a written value is as one that is read.
-/

namespace DocSnippets

/-- A JSON value, its strings made of characters unless told otherwise. -/
inductive Json (α : Type := Char)
  | null
  | bool (b : Bool)
  /-- A number, as it is written. -/
  | number (written : Text)
  | text (t : Text α)
  | array (items : List (Json α))
  /-- Values under names. -/
  | object (members : List (Text α × Json α))

namespace Json

section

variable {α : Type} [DecidableEq α]

/-- The value of the last member of a name. -/
def member? (members : List (Text α × Json α)) (name : Text α) : Option (Json α) :=
  (members.reverse.find? fun m => decide (m.1 = name)).map (·.2)

theorem member?_append (first second : List (Text α × Json α)) (name : Text α) :
    member? (first ++ second) name = (member? second name).or (member? first name) := by
  simp only [member?, List.reverse_append, List.find?_append]
  cases second.reverse.find? fun m => decide (m.1 = name) <;> simp

end

/-- The value of a text that may be missing. -/
def ofText? : Option Text → Json
  | some t => .text t
  | none => .null

/-! ### Code points -/

mutual

/-- A value as one of code points. -/
def wide : Json → Json CodePoint
  | .null => .null
  | .bool b => .bool b
  | .number written => .number written
  | .text t => .text (Text.wide t)
  | .array items => .array (wideItems items)
  | .object members => .object (wideMembers members)

/-- Items as items of code points. -/
def wideItems : List Json → List (Json CodePoint)
  | [] => []
  | item :: rest => wide item :: wideItems rest

/-- Members as members of code points. -/
def wideMembers : List (Text × Json) → List (Text CodePoint × Json CodePoint)
  | [] => []
  | (name, value) :: rest => (Text.wide name, wide value) :: wideMembers rest

end

theorem wideItems_eq_map (items : List Json) : wideItems items = items.map wide := by
  induction items with
  | nil => rfl
  | cons item rest ih => rw [wideItems, ih, List.map_cons]

theorem wideMembers_eq_map (members : List (Text × Json)) :
    wideMembers members = members.map fun m => (Text.wide m.1, wide m.2) := by
  induction members with
  | nil => rfl
  | cons m rest ih => rw [wideMembers, ih, List.map_cons]

theorem member?_wideMembers (members : List (Text × Json)) (name : Text) :
    member? (wideMembers members) (Text.wide name) = (member? members name).map wide := by
  have test : ((fun m : Text CodePoint × Json CodePoint => decide (m.1 = Text.wide name)) ∘
      fun m : Text × Json => (Text.wide m.1, wide m.2)) = fun m => decide (m.1 = name) := by
    funext m
    simp
  rw [member?, wideMembers_eq_map, ← List.map_reverse, List.find?_map, test, member?,
    Option.map_map, Option.map_map]
  rfl

mutual

theorem wide_inj {v w : Json} : wide v = wide w ↔ v = w := by
  cases v with
  | array items => cases w <;> simp [wide, wideItems_inj]
  | object members => cases w <;> simp [wide, wideMembers_inj]
  | _ => cases w <;> simp [wide]

theorem wideItems_inj {items others : List Json} :
    wideItems items = wideItems others ↔ items = others := by
  cases items with
  | nil => cases others <;> simp [wideItems]
  | cons item rest => cases others <;> simp [wideItems, wide_inj (v := item), wideItems_inj]

theorem wideMembers_inj {members others : List (Text × Json)} :
    wideMembers members = wideMembers others ↔ members = others := by
  cases members with
  | nil => cases others <;> simp [wideMembers]
  | cons m rest =>
    cases others with
    | nil => simp [wideMembers]
    | cons other more => simp [wideMembers, Prod.ext_iff, wide_inj (v := m.2), wideMembers_inj]

end

end Json

end DocSnippets
