/-
What a run of the program leaves behind. A run that fails prints nothing and changes no file. A run that succeeds
changes no file, unless its arguments name one with `--output` after the command that analyses: then it prints nothing,
and that file holds the report and all others are as they were.
-/
import SqlTemplate.CommandLine.Run
import SqlTemplate.Proofs.Template.Read
import SqlTemplate.Proofs.Template.Scan
import Mathlib.Data.List.Infix

namespace SqlTemplate

/-! ## Files after writing -/

namespace Files

/-- `after` holds `content` in the file that the path leads to and is `fs` everywhere else. -/
def Saved (fs after : Files) (path content : String) : Prop :=
  after.get? (resolve path) = some content ∧ ∀ q, q ≠ resolve path → after.get? q = fs.get? q

theorem get?_cons (e : Path × String) (es : List (Path × String)) (q : Path) :
    get? ⟨e :: es⟩ q = if e.1 = q then some e.2 else get? ⟨es⟩ q := by
  unfold get?
  by_cases h : e.1 = q
  · rw [List.find?_cons_of_pos (by simpa using h), if_pos h]
    rfl
  · rw [List.find?_cons_of_neg (by simpa using h), if_neg h]

/-- A file that is there gets new content, and no other file changes. -/
theorem get?_replace (es : List (Path × String)) (p q : Path) (content : String) :
    get? ⟨es.map fun e => if e.1 == p then (p, content) else e⟩ q =
      if q = p then (get? ⟨es⟩ p).map fun _ => content else get? ⟨es⟩ q := by
  induction es with
  | nil => split <;> rfl
  | cons e es ih =>
    rw [List.map_cons, get?_cons, get?_cons, get?_cons, ih]
    by_cases hp : e.1 = p
    · by_cases hq : q = p
      · simp [hp, hq]
      · simp [hp, hq, Ne.symm hq]
    · by_cases hq : q = p
      · simp [hp, hq]
      · simp [hp, hq]

theorem get?_append (es : List (Path × String)) (p q : Path) (content : String) (h : get? ⟨es⟩ p = none) :
    get? ⟨es ++ [(p, content)]⟩ q = if q = p then some content else get? ⟨es⟩ q := by
  induction es with
  | nil =>
    rw [List.nil_append, get?_cons]
    by_cases hq : q = p
    · simp [hq]
    · simp [hq, Ne.symm hq]
  | cons e es ih =>
    rw [get?_cons] at h
    split at h
    · cases h
    · rename_i hp
      rw [List.cons_append, get?_cons, get?_cons, ih h]
      by_cases hq : q = p
      · simp [hp, hq]
      · simp [hq]

theorem get?_put (fs : Files) (p q : Path) (content : String) :
    (fs.put p content).get? q = if q = p then some content else fs.get? q := by
  unfold put
  split
  · rename_i hthere
    obtain ⟨old, hold⟩ := Option.isSome_iff_exists.1 hthere
    have hold : get? ⟨fs.entries⟩ p = some old := hold
    rw [get?_replace, hold]
    rfl
  · rename_i hnew
    exact get?_append fs.entries p q content (Option.not_isSome_iff_eq_none.1 hnew)

theorem eq_put_of_write {fs after : Files} {path content : String} (h : fs.write path content = .ok after) :
    after = fs.put (resolve path) content := by
  unfold write at h
  dsimp only at h
  split at h
  · cases h
  · split at h
    · cases h
    · split at h
      · cases h
      · cases h
        rfl

theorem saved_of_write {fs after : Files} {path content : String} (h : fs.write path content = .ok after) :
    fs.Saved after path content := by
  rw [eq_put_of_write h]
  refine ⟨?_, fun q hq => ?_⟩
  · rw [get?_put, if_pos rfl]
  · rw [get?_put, if_neg hq]

end Files

namespace CommandLine

/-! ## What the arguments give -/

/-- The arguments give an option a value, attached to it or as the next argument. -/
def Spells (args : List String) (f : Flag) (v : String) : Prop :=
  ["--" ++ f.name, v] <:+: args ∨ "--" ++ f.name ++ "=" ++ v ∈ args

/-- An option that may be given here and, if it takes a value, the value that the arguments spell. -/
def Gives (allowed : List Flag) (args : List String) (g : Flag × String) : Prop :=
  g.1 ∈ allowed ∧ (g.1.takesValue = true → Spells args g.1 g.2)

variable {allowed : List Flag} {seen given : Given} {args rest operands : List String} {g : Flag × String}

theorem Gives.mono (hg : Gives allowed rest g) (h : rest <:+ args) : Gives allowed args g := by
  refine ⟨hg.1, fun hv => ?_⟩
  rcases hg.2 hv with hs | hs
  · exact .inl (hs.trans h.isInfix)
  · exact .inr (h.subset hs)

/-- The argument that spells an option with the value that is attached to it, if there is one. -/
def spelling (name : String) (value : Option String) : String :=
  match value with
  | some v => "--" ++ name ++ "=" ++ v
  | none => "--" ++ name

theorem eq_spelling_of_shape {arg name : String} {value : Option String} (h : shape arg = .long name value) :
    arg = spelling name value := by
  unfold shape at h
  split at h
  · cases h
  · rename_i cs _ harg
    apply String.toList_inj.1
    rw [harg]
    dsimp only at h
    have hcases := Template.takeWhile_cases (· != '=') cs
    generalize cs.takeWhile (· != '=') = taken at h hcases
    rcases hcases with rfl | ⟨c, after, rfl, hc⟩
    · -- no equals sign, so the name is all there is
      rw [List.drop_length] at h
      cases h
      simp [spelling]
    · rw [List.drop_left] at h
      cases h
      have hc : c = '=' := by simpa using hc
      simp [spelling, hc]
  · cases h
  · cases h

theorem option_gives {name : String} {value : Option String}
    (h : option allowed seen name value rest = .ok (g, operands)) :
    Gives allowed (spelling name value :: rest) g ∧ operands <:+ rest := by
  unfold option at h
  split at h
  · cases h
  · rename_i f hf
    have hmem : f ∈ allowed := List.mem_of_find?_eq_some hf
    have hname : f.name = name := by simpa using List.find?_some hf
    split at h
    · cases h
    · split at h
      · rename_i hflag
        split at h
        · cases h
        · cases h
          exact ⟨⟨hmem, fun hv => by simp [hv] at hflag⟩, List.suffix_refl _⟩
      · cases value with
        | some v =>
          cases h
          exact ⟨⟨hmem, fun _ => .inr (by simp [spelling, hname])⟩, List.suffix_refl _⟩
        | none =>
          cases rest with
          | nil => cases h
          | cons v more =>
            dsimp only at h
            split at h
            · cases h
              refine ⟨⟨hmem, fun _ => .inl ?_⟩, List.suffix_cons v operands⟩
              rw [hname]
              exact (List.prefix_append ["--" ++ name, v] operands).isInfix
            · cases h

/-- An option and those given after it. -/
theorem gives_step {arg name : String} {value : Option String} {more : List String}
    (hshape : shape arg = .long name value)
    (hg : option allowed seen name value rest = .ok (g, more))
    (hrest : ∀ k ∈ given, k ∈ seen ++ [g] ∨ Gives allowed more k) (k : Flag × String) (hk : k ∈ given) :
    k ∈ seen ∨ Gives allowed (arg :: rest) k := by
  obtain ⟨hgives, hmore⟩ := option_gives hg
  rw [← eq_spelling_of_shape hshape] at hgives
  rcases hrest k hk with hs | hs
  · rcases List.mem_append.1 hs with hs | hs
    · exact .inl hs
    · rw [List.mem_singleton.1 hs]
      exact .inr hgives
  · exact .inr (hs.mono (hmore.trans (List.suffix_cons arg rest)))

theorem leading_gives (h : leading seen args = .ok (given, rest)) :
    (∀ g ∈ given, g ∈ seen ∨ Gives Flag.shared args g) ∧ rest <:+ args := by
  fun_induction leading seen args with
  | case1 =>
    cases h
    exact ⟨fun g hg => .inl hg, List.suffix_refl _⟩
  | case2 => cases h
  | case3 seen arg more _ name value hshape p hp _ ih =>
    obtain ⟨hgiven, hsuffix⟩ := ih h
    exact ⟨gives_step hshape hp hgiven, (hsuffix.trans (option_gives hp).2).trans (List.suffix_cons arg more)⟩
  | case4 => cases h
  | case5 => cases h
  | case6 =>
    cases h
    exact ⟨fun g hg => .inl hg, List.suffix_refl _⟩

theorem mixed_gives (h : mixed allowed seen args = .ok (given, operands)) :
    ∀ g ∈ given, g ∈ seen ∨ Gives allowed args g := by
  fun_induction mixed allowed seen args generalizing operands with
  | case1 =>
    cases h
    exact fun g hg => .inl hg
  | case2 => cases h
  | case3 seen arg more _ name value hshape p hp _ ih => exact gives_step hshape hp (ih h)
  | case4 => cases h
  | case5 => cases h
  | case6 =>
    cases h
    exact fun g hg => .inl hg
  | case7 seen arg more _ _ ih =>
    obtain ⟨⟨own, others⟩, hown, h⟩ := bind_eq_ok.1 h
    cases h
    intro g hg
    exact (ih hown g hg).imp_right fun hs => hs.mono (List.suffix_cons arg more)

theorem mem_of_valueOf? {f : Flag} {v : String} (h : valueOf? given f = some v) : (f, v) ∈ given := by
  obtain ⟨g, hg, rfl⟩ := Option.map_eq_some_iff.1 h
  have hf : g.1 = f := by simpa using List.find?_some hg
  rw [← hf]
  exact List.mem_reverse.1 (List.mem_of_find?_eq_some hg)

theorem analyze_of_output_mem_flags {v : Verb} (h : Flag.output ∈ v.flags) : v = .analyze := by
  cases v <;> first | rfl | exact absurd h (by decide)

theorem invocation_eq_ok {v : Verb} {i : Invocation} (h : invocation v given operands = .ok i) :
    i.request = v.request given ∧ i.output = valueOf? given .output := by
  unfold invocation at h
  split at h
  · cases h
  · obtain ⟨src, -, h⟩ := bind_eq_ok.1 h
    cases h
    exact ⟨rfl, rfl⟩

/-- Only the command that analyses takes the name of a file to write, and the arguments spell it. -/
theorem parse_output {i : Invocation} {path : String} (h : parse args = .ok i) (hpath : i.output = some path) :
    i.request = .analyze ∧ "analyze" ∈ args ∧ Spells args .output path := by
  obtain ⟨⟨given, rest⟩, hleading, h⟩ := bind_eq_ok.1 h
  obtain ⟨hgiven, hrest⟩ := leading_gives hleading
  dsimp only at h
  split at h
  · cases h
  · cases h
  · cases h
  · rename_i name more _ _
    split at h
    · cases h
    · rename_i v hv
      obtain ⟨⟨own, operands⟩, hmixed, h⟩ := bind_eq_ok.1 h
      obtain ⟨hrequest, houtput⟩ := invocation_eq_ok h
      rcases List.mem_append.1 (mem_of_valueOf? (houtput.symm.trans hpath)) with hmem | hmem
      · -- before the command's name only the shared options may stand
        rcases hgiven _ hmem with hnil | hshared
        · cases hnil
        · have hnot : Flag.output ∉ Flag.shared := by decide
          exact absurd hshared.1 hnot
      · rcases mixed_gives hmixed _ hmem with hnil | hown
        · cases hnil
        · have hown := hown.mono ((List.suffix_cons name more).trans hrest)
          obtain rfl := analyze_of_output_mem_flags hown.1
          have hname : Verb.analyze.name = name := by simpa using List.find?_some hv
          subst hname
          exact ⟨hrequest, hrest.subset List.mem_cons_self, hown.2 rfl⟩

/-! ## Runs -/

variable {reading : Reading} {i : Invocation}

/-- What was asked for, worked out with the configuration and the template that the invocation names. -/
def Answers (reading : Reading) (i : Invocation) (a : Answer) : Prop :=
  ∃ c sql, config reading i = .ok c ∧ template reading i = .ok sql ∧ i.request.answer c sql = .ok a

theorem effect_eq_ok {e : Effect} (h : effect reading i = .ok e) :
    ∃ a, Answers reading i a ∧ e = match i.output with
      | none => .print (a.renderLines i.format)
      | some path => .save path (a.renderLines i.format) := by
  obtain ⟨c, hc, h⟩ := bind_eq_ok.1 h
  obtain ⟨-, -, h⟩ := bind_eq_ok.1 h
  obtain ⟨sql, hsql, h⟩ := bind_eq_ok.1 h
  obtain ⟨a, ha, h⟩ := bind_eq_ok.1 h
  have ha : i.request.answer c sql = .ok a := by
    unfold answer at ha
    split at ha
    · cases ha
      assumption
    · cases ha
  refine ⟨a, ⟨c, sql, hc, hsql, ha⟩, ?_⟩
  cases hout : i.output with
  | none =>
    rw [hout] at h
    cases h
    rfl
  | some path =>
    rw [hout] at h
    cases h
    rfl

/-- A run whose arguments are an invocation fails, prints, or saves. -/
theorem runOn_cases (reading : Reading) (fs : Files) (hi : parse args = .ok i) :
    (∃ f, runOn reading args fs = .failure fs f) ∨
    ∃ a, Answers reading i a ∧
      ((i.output = none ∧ runOn reading args fs = ⟨0, a.renderLines i.format, none, fs⟩) ∨
        ∃ path after, i.output = some path ∧ fs.write path (a.renderLines i.format) = .ok after ∧
          runOn reading args fs = ⟨0, "", none, after⟩) := by
  unfold runOn
  rw [hi]
  dsimp only
  cases he : effect reading i with
  | error f => exact .inl ⟨f, rfl⟩
  | ok e =>
    obtain ⟨a, ha, rfl⟩ := effect_eq_ok he
    cases hout : i.output with
    | none => exact .inr ⟨a, ha, .inl ⟨rfl, rfl⟩⟩
    | some path =>
      dsimp only [Outcome.ofEffect]
      cases hw : fs.write path (a.renderLines i.format) with
      | error e => exact .inl ⟨_, rfl⟩
      | ok after => exact .inr ⟨a, ha, .inr ⟨path, after, rfl, hw, rfl⟩⟩

theorem failure_frame (fs : Files) (f : Failure) :
    (Outcome.failure fs f).exit ≠ 0 ∧ (Outcome.failure fs f).output = "" ∧ (Outcome.failure fs f).files = fs := by
  cases f with
  | rejected e => exact ⟨Nat.one_ne_zero, rfl, rfl⟩
  | call message => exact ⟨Nat.succ_ne_zero 1, rfl, rfl⟩

/-- Whatever can be read, and whatever the arguments are: a run that fails prints nothing and leaves the files as they
were. A run that succeeds leaves them, too, unless it was to write a file. Then its arguments hold the command that
analyses and the name of the file; it prints nothing, and the file holds the report, and no other file changes. -/
theorem runOn_frame (reading : Reading) (args : List String) (fs : Files) :
    ((runOn reading args fs).exit ≠ 0 → (runOn reading args fs).output = "" ∧ (runOn reading args fs).files = fs) ∧
    ((runOn reading args fs).exit = 0 →
      ((∀ i, parse args = .ok i → i.output = none) → (runOn reading args fs).files = fs) ∧
      ∀ i path, parse args = .ok i → i.output = some path →
        "analyze" ∈ args ∧ Spells args .output path ∧ (runOn reading args fs).output = "" ∧
        ∃ c sql report, config reading i = .ok c ∧ template reading i = .ok sql ∧ Template.analyze c sql = .ok report ∧
          fs.Saved (runOn reading args fs).files path ((Answer.analysis report).renderLines i.format)) := by
  cases hparse : parse args with
  | error r =>
    have hrun : runOn reading args fs = .refusal fs r := by
      unfold runOn
      rw [hparse]
    rw [hrun]
    refine ⟨fun hexit => ?_, fun _ => ⟨fun _ => ?_, fun i path hi => nomatch hi⟩⟩
    · cases r with
      | misuse => exact ⟨rfl, rfl⟩
      | nothingAsked => exact ⟨rfl, rfl⟩
      | helpAsked => exact absurd rfl hexit
    · cases r <;> rfl
  | ok i =>
    rcases runOn_cases reading fs hparse with ⟨f, hf⟩ | ⟨a, ha, ⟨hnone, hrun⟩ | ⟨path, after, hpath, hw, hrun⟩⟩
    · rw [hf]
      obtain ⟨hexit, hframe⟩ := failure_frame fs f
      exact ⟨fun _ => hframe, fun h => absurd h hexit⟩
    · rw [hrun]
      refine ⟨fun h => absurd rfl h, fun _ => ⟨fun _ => rfl, ?_⟩⟩
      rintro _ path ⟨⟩ hpath
      rw [hnone] at hpath
      cases hpath
    · rw [hrun]
      refine ⟨fun h => absurd rfl h, fun _ => ⟨fun hnone => ?_, ?_⟩⟩
      · rw [hnone i rfl] at hpath
        cases hpath
      · rintro _ _ ⟨⟩ hpath'
        obtain rfl := Option.some.inj (hpath.symm.trans hpath')
        obtain ⟨hrequest, hname, hspells⟩ := parse_output hparse hpath
        obtain ⟨c, sql, hc, hsql, ha⟩ := ha
        rw [hrequest] at ha
        obtain ⟨report, hreport, ha⟩ := bind_eq_ok.1 ha
        cases ha
        exact ⟨hname, hspells, rfl, c, sql, report, hc, hsql, hreport, Files.saved_of_write hw⟩

/-- The report on `query.sql` is saved, in a directory that is not there yet, and the template stays as it is. -/
theorem runOn_frame_report :
    let fs : Files := ⟨[(["query.sql"], "SELECT a FROM t")]⟩
    let args := ["analyze", "--file", "query.sql", "--output=out/report.md"]
    (run args none fs).exit = 0 ∧ (run args none fs).output = "" ∧
      (run args none fs).files.get? ["query.sql"] = some "SELECT a FROM t" ∧
      ((run args none fs).files.get? ["out", "report.md"]).isSome = true := by
  intro fs args
  have hexit : (run args none fs).exit = 0 := by decide +kernel
  have hparse : parse args = .ok ⟨none, none, .text, false, .analyze, .file "query.sql", some "out/report.md"⟩ := by
    decide +kernel
  obtain ⟨-, hok⟩ := runOn_frame ⟨fs.read?, none⟩ args fs
  obtain ⟨-, -, hsilent, _, _, _, -, -, -, hsaved, hothers⟩ := (hok hexit).2 _ "out/report.md" hparse rfl
  refine ⟨hexit, hsilent, ?_, ?_⟩
  · exact (hothers ["query.sql"] (by decide +kernel)).trans rfl
  · have hplace : Files.resolve "out/report.md" = ["out", "report.md"] := by decide +kernel
    rw [hplace] at hsaved
    exact Option.isSome_of_eq_some hsaved

end CommandLine

end SqlTemplate
