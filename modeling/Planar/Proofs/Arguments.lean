import Planar.Command.Options
import Planar.Proofs.Traversal

/-! What a reader of options finds. An option that takes a value is given as two arguments or as
one with an equals sign, and what is found under its name are the values so given, in order. -/
namespace Planar.Command

variable {rules : List Rule} {rule : Rule} {found found' : Bindings} {cursor cursor' : Cursor}
  {arg name other value : String} {attached attached' : Option String} {args rest : List String}

/-- How an option is written, alone or with its value attached. -/
def spell (name : String) : Option String → String
  | none => "--" ++ name
  | some value => "--" ++ name ++ "=" ++ value

/-- The value that an argument attaches to an option. -/
def attached? (name arg : String) : Option String :=
  let front := (spell name (some "")).toList
  if front <+: arg.toList then some (String.ofList (arg.toList.drop front.length)) else none

/-- The values that an argument gives to an option, given the arguments after it. -/
def givenBy (name arg : String) (rest : List String) : List String :=
  if arg = spell name none then rest.head?.toList else (attached? name arg).toList

/-- All values that are given to an option, in order. -/
def given (name : String) : List String → List String
  | [] => []
  | arg :: rest => givenBy name arg rest ++ given name rest

example : given "label" ["--label", "a", "--path=b", "--label=c=d", "--labels", "e"] =
    ["a", "c=d"] := by decide +kernel

theorem attached?_eq_some : attached? name arg = some value ↔ arg = spell name (some value) := by
  rw [attached?]
  constructor
  · intro h
    split at h
    · rename_i hfront
      obtain ⟨after, hafter⟩ := hfront
      cases h
      apply String.toList_inj.mp
      rw [← hafter, List.drop_left]
      simp [spell]
    · cases h
  · rintro rfl
    rw [if_pos]
    · simp [spell]
    · simp [spell]

/-- Every long option is spelled in one of the two ways. -/
theorem exists_spell (hlong : arg.startsWith "--" = true) :
    ∃ name attached, '=' ∉ name.toList ∧ arg = spell name attached := by
  rw [String.startsWith_string_iff] at hlong
  obtain ⟨letters, hletters⟩ := hlong
  by_cases hequals : '=' ∈ letters
  · obtain ⟨name, value, rfl, hname⟩ := List.eq_append_cons_of_mem hequals
    refine ⟨String.ofList name, some (String.ofList value), ?_, ?_⟩
    · rwa [String.toList_ofList]
    · apply String.toList_inj.mp
      simp [spell, ← hletters]
  · refine ⟨String.ofList letters, none, ?_, ?_⟩
    · rwa [String.toList_ofList]
    · apply String.toList_inj.mp
      simp [spell, ← hletters]

theorem splitAttached_spell (hname : '=' ∉ name.toList) :
    splitAttached (spell name attached) = (name, attached) := by
  have hall : ∀ c ∈ name.toList, decide (c ≠ '=') = true :=
    fun c hc => decide_eq_true fun h => hname (h ▸ hc)
  rw [splitAttached]
  cases attached with
  | none =>
    have hletters : (spell name none).toList.drop 2 = name.toList := by simp [spell]
    rw [hletters, List.takeWhile_eq_self_iff.mpr hall, List.dropWhile_eq_nil_iff.mpr hall,
      String.ofList_toList]
  | some value =>
    have hletters : (spell name (some value)).toList.drop 2 =
        name.toList ++ '=' :: value.toList := by simp [spell]
    rw [hletters, List.takeWhile_append_of_pos hall, List.dropWhile_append_of_pos hall]
    simp

theorem spell_injective (hname : '=' ∉ name.toList) (hother : '=' ∉ other.toList)
    (h : spell other attached = spell name attached') : other = name ∧ attached = attached' := by
  have hsplit : splitAttached (spell other attached) = _ := splitAttached_spell hother
  rw [h, splitAttached_spell hname] at hsplit
  exact ⟨(congrArg Prod.fst hsplit).symm, (congrArg Prod.snd hsplit).symm⟩

theorem givenBy_of_ne_spell (hne : ∀ attached, arg ≠ spell name attached) :
    givenBy name arg rest = [] := by
  have hnone : attached? name arg = none :=
    Option.eq_none_iff_forall_ne_some.mpr fun value h => hne _ (attached?_eq_some.mp h)
  rw [givenBy, if_neg (hne none), hnone, Option.toList_none]

theorem givenBy_spell (hname : '=' ∉ name.toList) (hother : '=' ∉ other.toList) :
    givenBy name (spell other attached) rest =
      if other = name then attached.elim rest.head?.toList fun value => [value] else [] := by
  by_cases hsame : other = name
  · subst hsame
    rw [if_pos rfl]
    cases attached with
    | none => rw [givenBy, if_pos rfl, Option.elim_none]
    | some value =>
      have hne : spell other (some value) ≠ spell other none := by
        intro h
        cases (spell_injective hname hother h).2
      rw [givenBy, if_neg hne, attached?_eq_some.mpr rfl, Option.elim_some, Option.toList_some]
  · rw [if_neg hsame]
    exact givenBy_of_ne_spell fun _ h => hsame (spell_injective hname hother h).1

theorem exists_toList_spell :
    ∃ letters, (spell name attached).toList = '-' :: '-' :: (name.toList ++ letters) := by
  cases attached with
  | none => exact ⟨[], by simp [spell]⟩
  | some value => exact ⟨'=' :: value.toList, by simp [spell]⟩

theorem looksLikeOption_spell : looksLikeOption (spell name attached) = true := by
  obtain ⟨letters, hletters⟩ : ∃ letters, (spell name attached).toList = _ := exists_toList_spell
  rw [looksLikeOption, Bool.and_eq_true, String.startsWith_string_iff, decide_eq_true_iff]
  refine ⟨⟨_, hletters.symm⟩, ?_⟩
  intro h
  rw [h] at hletters
  simp at hletters

/-- What cannot be taken for an option gives nothing. -/
theorem givenBy_of_plain (hplain : looksLikeOption arg = false) : givenBy name arg rest = [] := by
  refine givenBy_of_ne_spell ?_
  rintro attached rfl
  rw [looksLikeOption_spell] at hplain
  cases hplain

theorem givenBy_close (hname : name ≠ "") : givenBy name "--" rest = [] := by
  refine givenBy_of_ne_spell ?_
  intro attached h
  obtain ⟨letters, hletters⟩ : ∃ letters, (spell name attached).toList = _ := exists_toList_spell
  rw [← h] at hletters
  have hnil : name.toList ++ letters = [] := by simpa using hletters
  exact hname (String.toList_eq_nil_iff.mp (List.append_eq_nil_iff.mp hnil).1)

/-- One argument is the value that is due, ends the options, or names an option. -/
inductive Reads (rules : List Rule) (found : Bindings) :
    Cursor → String → Cursor → Bindings → Prop where
  | value (rule : Rule) (value : String) (hplain : looksLikeOption value = false) :
    Reads rules found (.due rule) value .ready (found ++ [(rule.name, value)])
  | close : Reads rules found .ready "--" .closed found
  | attached (rule : Rule) (value : String) (hrule : rule ∈ rules)
    (hname : '=' ∉ rule.name.toList) (harity : rule.arity ≠ .switch) :
    Reads rules found .ready (spell rule.name (some value)) .ready
      (found ++ [(rule.name, value)])
  | switch (rule : Rule) (hrule : rule ∈ rules) (hname : '=' ∉ rule.name.toList)
    (harity : rule.arity = .switch) :
    Reads rules found .ready (spell rule.name none) .ready (found ++ [(rule.name, "")])
  | option (rule : Rule) (hrule : rule ∈ rules) (hname : '=' ∉ rule.name.toList)
    (harity : rule.arity ≠ .switch) :
    Reads rules found .ready (spell rule.name none) (.due rule) found

theorem map_bind_eq_ok {next : Cursor}
    (h : (bind rule value found).map (fun found => (next, found)) = .ok (cursor', found')) :
    cursor' = next ∧ found' = found ++ [(rule.name, value)] := by
  rw [bind] at h
  split at h
  · cases h
  · split at h
    · cases h
      exact ⟨rfl, rfl⟩
    · cases h

theorem reads_of_spell (hname : '=' ∉ name.toList)
    (hlong : (spell name attached).startsWith "--" = true) (hopen : spell name attached ≠ "--")
    (h : step rules (.ready, found) (spell name attached) = .ok (cursor', found')) :
    Reads rules found .ready (spell name attached) cursor' found' := by
  rw [step, if_neg hopen, if_pos hlong, splitAttached_spell hname] at h
  dsimp only at h
  cases hfind : rules.find? (·.name = name) with
  | none =>
    rw [hfind] at h
    cases attached with
    | none => cases h
    | some value => cases h
  | some rule =>
    have hrule : rule ∈ rules := List.mem_of_find?_eq_some hfind
    obtain rfl : rule.name = name := by simpa using List.find?_some hfind
    rw [hfind] at h
    cases attached with
    | none =>
      dsimp only at h
      split at h
      · rename_i harity
        obtain ⟨rfl, rfl⟩ := map_bind_eq_ok h
        exact .switch rule hrule hname harity
      · rename_i harity
        cases h
        exact .option rule hrule hname harity
    | some value =>
      dsimp only at h
      split at h
      · cases h
      · rename_i harity
        obtain ⟨rfl, rfl⟩ := map_bind_eq_ok h
        exact .attached rule value hrule hname harity

/-- A successful step is one of the five. -/
theorem reads_of_step (h : step rules (cursor, found) arg = .ok (cursor', found')) :
    Reads rules found cursor arg cursor' found' := by
  cases cursor with
  | closed => cases h
  | due rule =>
    rw [step] at h
    split at h
    · cases h
    · rename_i hplain
      obtain ⟨rfl, rfl⟩ := map_bind_eq_ok h
      exact .value rule arg (Bool.eq_false_iff.mpr hplain)
  | ready =>
    by_cases hclose : arg = "--"
    · subst hclose
      cases h
      exact .close
    · by_cases hlong : arg.startsWith "--" = true
      · obtain ⟨name, attached, hname, rfl⟩ := exists_spell hlong
        exact reads_of_spell hname hlong hclose h
      · rw [step, if_neg hclose, if_neg hlong] at h
        split at h
        · cases h
        · cases h

theorem Bindings.values_append {key : String} :
    Bindings.values (found ++ [(key, value)]) name =
      found.values name ++ if key = name then [value] else [] := by
  rw [Bindings.values, List.filterMap_append]
  by_cases hsame : key = name
  · simp [hsame, Bindings.values]
  · simp [hsame, Bindings.values]

/-- The value that an option before the arguments is due. -/
def Cursor.owed (name : String) (args : List String) : Cursor → List String
  | .due rule => if rule.name = name then args.head?.toList else []
  | _ => []

theorem Cursor.owed_nil : cursor.owed name [] = [] := by
  cases cursor with
  | ready => rfl
  | due rule => exact ite_self []
  | closed => rfl

/-- An option that takes a value, and whose name can be told from it. -/
structure TakesValue (rules : List Rule) (name : String) : Prop where
  nonempty : name ≠ ""
  plain : '=' ∉ name.toList
  arity : ∀ rule ∈ rules, rule.name = name → rule.arity ≠ .switch

/-- Each argument is found under a name as soon as it is due there. -/
theorem Reads.values (hname : TakesValue rules name)
    (h : Reads rules found cursor arg cursor' found') :
    found'.values name ++ cursor'.owed name rest =
      found.values name ++ cursor.owed name (arg :: rest) ++ givenBy name arg rest := by
  cases h with
  | value rule value hplain =>
    rw [Bindings.values_append, givenBy_of_plain hplain]
    rfl
  | close =>
    rw [givenBy_close hname.nonempty]
    simp [Cursor.owed]
  | attached rule value hrule hother harity =>
    rw [Bindings.values_append, givenBy_spell hname.plain hother]
    simp [Cursor.owed]
  | switch rule hrule hother harity =>
    have hne : rule.name ≠ name := fun h => hname.arity rule hrule h harity
    rw [Bindings.values_append, givenBy_spell hname.plain hother, if_neg hne, if_neg hne]
    rfl
  | option rule hrule hother harity =>
    rw [givenBy_spell hname.plain hother]
    simp [Cursor.owed]

theorem values_of_foldlM (hname : TakesValue rules name)
    (h : args.foldlM (step rules) (cursor, found) = .ok (cursor', found')) :
    found'.values name = found.values name ++ cursor.owed name args ++ given name args := by
  induction args generalizing cursor found with
  | nil =>
    cases h
    rw [Cursor.owed_nil, given, List.append_nil, List.append_nil]
  | cons arg args ih =>
    rw [List.foldlM_cons] at h
    obtain ⟨⟨between, found₁⟩, hstep, h⟩ := bind_eq_ok.mp h
    rw [ih h, (reads_of_step hstep).values hname, given, List.append_assoc]

/-- What is read under the name of an option are the values given to it. -/
theorem values_of_parse (hname : TakesValue rules name) (h : parse rules args = .ok found) :
    found.values name = given name args := by
  obtain ⟨⟨cursor, found'⟩, hfold, h⟩ := bind_eq_ok.mp h
  have hvalues := values_of_foldlM hname hfold
  cases cursor with
  | ready =>
    cases h
    exact hvalues
  | due rule => cases h
  | closed =>
    cases h
    exact hvalues

end Planar.Command
