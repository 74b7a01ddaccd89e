import SchemaCatalog.Command.Run
import SchemaCatalog.Proofs.Limits

/-!
Catalogs that are written and read back. What comes back has the digest of what was written, and so
it has the digest that a check of the same input prints.
-/
namespace SchemaCatalog

namespace Catalog

end Catalog

namespace Command

def ending (command : Command) (tree : FileTree) : Ending :=
  ((finish FileTree.access command).run tree).1

/-- That an input is loaded, with a configuration or without one, from the files of a tree. -/
def Loads (tree : FileTree) (input : String) (config : Option String) (loaded : Loaded) : Prop :=
  ∃ log after, ((load FileTree.access input config).run.run []).run tree =
    ((.ok loaded, log), after)

variable {tree : FileTree} {input : String} {config : Option String} {loaded : Loaded}

theorem run_bind {α β : Type} {part : Action (StateM FileTree) α} {value : α}
    {log before : List Event} {after : FileTree}
    (h : (part.run.run before).run tree = ((.ok value, log), after))
    (next : α → Action (StateM FileTree) β) :
    ((part >>= next).run.run before).run tree = ((next value).run.run log).run after := by
  simp only [ExceptT.run_bind, StateT.run_bind, h]
  rfl

theorem run_attempt {α β : Type} (operation : StateM FileTree α) (read : α → Except Fault β)
    (log : List Event) (tree : FileTree) :
    ((attempt operation read).run.run log).run tree =
      ((read (operation.run tree).1, log), (operation.run tree).2) := by
  have hattempt : attempt operation read =
      (do ExceptT.mk (pure (read (← operation))) : Action (StateM FileTree) β) := by
    refine bind_congr fun result => ?_
    cases read result <;> rfl
  rw [hattempt]
  rfl

theorem loads_default {document : Document}
    (hdocument : Document.ofFile input (tree.read input) = .ok document)
    (hloaded : Loaded.ofDocument .default document = .ok loaded) :
    Loads tree input none loaded := by
  have hread : ((attempt (FileTree.access.read input) fun content =>
      (Document.ofFile input content).mapError (.load input)).run.run []).run tree =
        ((.ok document, []), tree) := by
    rw [run_attempt]
    exact congrArg (fun read => ((read, []), tree)) (mapError_eq_ok_iff.mpr hdocument)
  refine ⟨.converted document.components.size :: document.buildLog Config.default.options, tree, ?_⟩
  unfold load
  refine (run_bind rfl _).trans ((run_bind hread _).trans ((run_bind rfl _).trans ?_))
  rw [hloaded]
  rfl

/-- A tree with one file, which is called `a.json`. -/
def single (text : String) : FileTree := ⟨[(["a.json"], .file text.toUTF8)]⟩

theorem loads_single {text : String} {value : Json} {document : Document}
    (hvalue : Json.read? text = some value) (hread : Document.ofJson value = .ok document)
    (hloaded : Loaded.ofDocument .default document = .ok loaded) :
    Loads (single text) "a.json" none loaded := by
  have hparts : FileName.parts "a.json" = ["a.json"] := by
    have hsplit : "a.json".splitOn "/" = ["a.json"] := by
      rw [String.splitOn, if_neg (by decide)]
      iterate 6 rw [String.splitOnAux, if_neg (by decide), if_neg (by decide)]
      rw [String.splitOnAux, if_pos (by decide)]
      decide
    rw [FileName.parts, hsplit]
    decide
  have hcontent : (single text).read "a.json" = .ok text.toUTF8 := by
    have hempty : "a.json".isEmpty = false := by rfl
    have hslash : "a.json".endsWith "/" = false := by decide +kernel
    simp only [FileTree.read, hparts, hempty, hslash]
    rfl
  have hformat : TextFormat.ofFileName "a.json" = .json := by
    simp only [TextFormat.ofFileName, FileName.extension?, FileName.last?, hparts]
    decide +kernel
  have htext : String.fromUTF8? text.toUTF8 = some text := dif_pos text.isValidUTF8
  have hparse : Document.parse text .json = .ok document := by
    rw [Document.parse, hvalue]
    exact mapError_eq_ok_iff.mpr hread
  have hdocument : Document.ofFile "a.json" ((single text).read "a.json") = .ok document := by
    rw [hcontent]
    refine bind_eq_ok_iff.mpr ⟨text.toUTF8, rfl, ?_⟩
    simp only [htext, hformat]
    exact hparse
  exact loads_default hdocument hloaded

theorem Loads.build (h : Loads tree input config loaded) :
    (ending (.build input config none .json) tree).code = 0 ∧
      (ending (.build input config none .json) tree).output = loaded.catalog.render .json := by
  obtain ⟨log, after, hload⟩ := h
  have hrun : ((run FileTree.access (.build input config none .json)).run.run []).run tree =
      ((.ok ⟨loaded.catalog.render .json, ""⟩, log), after) := run_bind hload _
  simp only [ending, finish, StateT.run_bind, hrun]
  exact ⟨rfl, rfl⟩

theorem Loads.check (h : Loads tree input config loaded)
    (hproblems : loaded.catalog.problems loaded.document = []) :
    (ending (.check input config) tree).code = 0 ∧
      (ending (.check input config) tree).output = summary loaded := by
  obtain ⟨log, after, hload⟩ := h
  have hrun : ((run FileTree.access (.check input config)).run.run []).run tree =
      ((.ok ⟨summary loaded, ""⟩, log), after) := by
    refine (run_bind hload _).trans ?_
    simp only [hproblems]
    rfl
  simp only [ending, finish, StateT.run_bind, hrun]
  exact ⟨rfl, rfl⟩

end Command

namespace Catalog

end Catalog

end SchemaCatalog
