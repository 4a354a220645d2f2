import Scaffold.Proofs.Commands
import Scaffold.Proofs.Definedness
import Scaffold.Proofs.KeySearch
import Scaffold.Proofs.Known
import Scaffold.Proofs.Stages

/-!
# What is reported before files are generated

`validate` and generation start alike: the document is read, its diagram is analysed, and lint looks
for problems. Generation goes on with the files, for a package and a limit of its own. The stages
that both have in common look at neither, so what `validate` reports is what generation reports
first, for every package and every limit.

The analysis reports what it leaves out of a class when it resolves the class, which happens on
demand. `answers_build` says that nothing is put off: after the analysis all that can be asked for
is remembered. What the generators read is what asking for it gives, and asking reports nothing
more.

Main statement: `reported_first`.
-/

namespace Scaffold

/-! ## After the analysis -/

namespace Resolve

variable {h : Hierarchy} {c : ClassNode} {s : Resolution}

theorem run_membersAlong_of_known {m : Members} (rest : List ClassNode)
    (hlookup : s.members.lookup c.id = some m) : (membersAlong h (c :: rest)).run s = (m, s) := by
  simp only [membersAlong, StateT.run_bind, StateT.run_get, pure_bind, hlookup]
  rfl

/-- Members that are known are looked up, and nothing is reported. -/
theorem run_membersOf_of_known (hknown : s.KnowsMembers c) :
    (membersOf h c).run s = (Members.inTable s.members c, s) := by
  obtain ⟨m, hm⟩ := Option.isSome_iff_exists.1 hknown
  rw [membersOf, run_membersAlong_of_known _ hm, Members.inTable, hm, Option.getD_some]

/-- A key that is known is looked up, and nothing is reported. -/
theorem run_primaryKey_of_known (hknown : s.KnowsKey c) :
    (primaryKey h c).run s = (Context.keyIn s.keys c, s) := by
  obtain ⟨key, hkey⟩ := Option.isSome_iff_exists.1 hknown
  rw [primaryKey, run_keyAlong_of_known _ hkey, Context.keyIn, hkey, Option.getD_some]

end Resolve

namespace Context

/-- What is remembered when all classes are resolved. -/
def resolved (d : Diagram) : Resolution := ((resolveAll (Hierarchy.ofDiagram d).value).run {}).2

/-- With what is remembered, asking for the members and the keys of a class gives what a context
has, and neither reports nor remembers anything more. -/
def Answers (ctx : Context) (s : Resolution) (c : ClassNode) : Prop :=
  (Resolve.membersOf ctx.hierarchy c).run s = (ctx.membersOf c, s) ∧
    (Resolve.primaryKey ctx.hierarchy c).run s = (ctx.primaryKey c, s) ∧
    (Resolve.entityKey ctx.hierarchy c).run s = (ctx.entityKey c, s)

/-- After the analysis everything that can be asked for is remembered. -/
theorem answers_build (d : Diagram) (basePackage : String) (queryLimit : Int) {c : ClassNode}
    (hc : c ∈ d.classes) : (build d basePackage queryLimit).value.Answers (resolved d) c := by
  obtain ⟨hmembers, hkey, hroot⟩ := (known_build d basePackage queryLimit).1 c hc
  exact ⟨Resolve.run_membersOf_of_known hmembers, Resolve.run_primaryKey_of_known hkey,
    Resolve.run_primaryKey_of_known hroot⟩

end Context

/-! ## Both commands -/

namespace Stage

/-- The stages in front of generation. -/
def early : List Stage := [.reading, .analysis, .lint]

variable (d : Noted Diagram) (basePackage : String) (queryLimit : Int)

/-- What `validate` collects comes from the early stages. -/
theorem notes_check : d.notes ++ (d.value.check basePackage queryLimit).notes =
    early.flatMap (notes d basePackage queryLimit) := by
  have hcheck : (d.value.check basePackage queryLimit).notes =
      notes d basePackage queryLimit .analysis ++ notes d basePackage queryLimit .lint := rfl
  simp [early, hcheck, notes]

/-- What generation collects comes from the early stages and then from the files. -/
theorem notes_generate : d.notes ++ (d.value.generate basePackage queryLimit).run.notes =
    early.flatMap (notes d basePackage queryLimit) ++
      notes d basePackage queryLimit .generation := by
  rw [Diagram.notes_generate]
  simp [early, notes]

/-- The early stages look at neither the package nor the limit. -/
theorem flatMap_early_congr (basePackage' : String) (queryLimit' : Int) :
    early.flatMap (notes d basePackage queryLimit) =
      early.flatMap (notes d basePackage' queryLimit') := by
  refine List.flatMap_congr fun stage hstage => ?_
  cases stage with
  | reading | analysis | lint => rfl
  | generation => simp [early] at hstage

end Stage

namespace Command

/-- For every document that is accepted there are diagnostics that `validate` reports, whatever the
settings are: those of reading, of the analysis and of lint. Every generation reports them first,
whatever its package and its limit are, and what it reports besides comes from the files. Nothing
that the analysis could report is put off until then. -/
theorem reported_first {text : List Char} {d : Noted Diagram}
    (hparse : Diagram.parse (.text (String.ofList (Text.trimChars text))) = .ok d) :
    ∃ reported : List Diagnostic,
      (∀ {tree tree' env verbose s log p},
        Log.Options.start { verbose } tree env = .ok (s, log, tree') → tree'.Holds p text →
          ∀ strict args, Invocation.ofArguments args = .ok (.run (.validate p strict) verbose) →
            let o := execute tree env args
            o.console.said = (report reported).map spoken ∧ o.fault = none ∧
              (o.exitCode = 0 ↔ (strict = true → reported = []))) ∧
      (∀ basePackage queryLimit,
        reported = Stage.early.flatMap (Stage.notes d basePackage queryLimit) ∧
        d.notes ++ (d.value.generate basePackage queryLimit).run.notes =
          reported ++ Stage.notes d basePackage queryLimit .generation ∧
        (∀ stage, OnlyFrom stage (Stage.notes d basePackage queryLimit stage)) ∧
        ∀ c ∈ d.value.classes,
          (Context.build d.value basePackage queryLimit).value.Answers
            (Context.resolved d.value) c) ∧
      ∀ r s generated,
        compile (.text (String.ofList (Text.trimChars text))) r s = .ok generated →
          reported <+: generated.notes := by
  -- `validate` looks for problems with the standard limit, whatever the settings say
  let standard : Settings := {}
  have hfirst := fun basePackage queryLimit =>
    Stage.flatMap_early_congr d standard.basePackage standard.queryLimit basePackage queryLimit
  refine ⟨_, fun {tree tree' env verbose s log p} hstart hfile strict args hargs => ?_,
    fun basePackage queryLimit => ⟨hfirst basePackage queryLimit, ?_,
      fun stage => stage.onlyFrom_notes hparse _ _, fun c hc => Context.answers_build _ _ _ hc⟩,
    fun r s generated hcompile => ?_⟩
  · have hreport := says_report (Diagram.load_of_holds hfile hparse) s strict
    rw [hfirst s.basePackage standard.queryLimit, ← Stage.notes_check]
    intro o
    have hout : o = _ := execute_eq_ended hargs hstart hreport
    rw [hout]
    by_cases hends : strict = true ∧
        d.notes ++ (d.value.check s.basePackage standard.queryLimit).notes ≠ []
    · rw [if_pos hends]
      exact ⟨rfl, rfl, fun hcode => absurd hcode Nat.one_ne_zero, fun hnone =>
        absurd (hnone hends.1) hends.2⟩
    · rw [if_neg hends]
      exact ⟨rfl, rfl, fun _ hstrict => by_contra fun hnone => hends ⟨hstrict, hnone⟩,
        fun _ => rfl⟩
  · rw [hfirst basePackage queryLimit]
    exact Stage.notes_generate d basePackage queryLimit
  · obtain ⟨d', hparse', -, hnotes, -⟩ := places_of_compile hcompile
    obtain rfl : d = d' := Except.ok.inj (hparse.symm.trans hparse')
    rw [hnotes, Request.generate, Stage.notes_generate, hfirst]
    exact List.prefix_append _ _

theorem reported_first_rentals :
    let source : Document.Source := .text (String.ofList (Text.trimChars (rentals [])))
    let lines :=
      ["[ValidationWarning] c: Car: missing primary key; a generated 'id: Long' is used",
        "[ValidationWarning] x: relationship e: endpoint 'x' does not exist",
        "[ValidationWarning] r: association table Rental has 1 foreign key(s); a join entity " ++
          "needs one per side"]
    (execute (desk (rentals [])) [] ["validate", "diagram.json"]).console.said =
        lines ++ ["3 warning(s)"] ∧
      ∃ generated,
        compile source { package := some "org.rental", queryLimit := some (-1) } =
          .ok generated ∧
        lines <+: generated.notes.map Diagnostic.format := by
  intro source lines
  let limit : Int := -1
  have hfacts : (Diagram.parse source).toOption.any (fun d => decide (
      (report (Stage.early.flatMap (Stage.notes d "org.rental" limit))).map spoken =
        lines ++ ["3 warning(s)"] ∧
      (Stage.early.flatMap (Stage.notes d "org.rental" limit)).map Diagnostic.format = lines ∧
      ∀ c ∈ d.value.classes, ∀ a ∈ c.attributes, a.Declarable)) = true := by
    simp only [source, Diagram.parse, Document.Source.fields, Json.Value.read,
      String.toList_ofList]
    decide +kernel
  obtain ⟨d, hparse, hlines, hformat, hread⟩ := Except.exists_of_any hfacts
  obtain ⟨generated, hcompile⟩ := exists_compile_of_declarable hparse hread
    { package := some "org.rental", queryLimit := some limit } {}
  have hstart : Log.Options.start { verbose := false } (desk (rentals [])) [] =
      .ok ({}, _, desk (rentals [])) := rfl
  obtain ⟨reported, hsaid, hstages, hfirst⟩ := reported_first hparse
  obtain ⟨hshown, -⟩ := hsaid hstart (holds_desk (by decide +kernel)) false
    ["validate", "diagram.json"] (by decide +kernel)
  rw [(hstages "org.rental" limit).1] at hshown hfirst
  refine ⟨hshown.trans hlines, generated, hcompile, ?_⟩
  rw [← hformat]
  exact (hfirst _ _ _ hcompile).map _

end Command

end Scaffold
