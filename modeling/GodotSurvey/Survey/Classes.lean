import GodotSurvey.Survey.Basic

/-!
# The classes of a project

The global classes and autoloads that the scripts of a project can name, each with the engine class
that it is based on in the end.
-/

namespace GodotSurvey

/-- A class of a project. -/
structure ListedClass where
  declared : GlobalClass
  /-- The engine class at the end of its chain of bases, empty if there is none. -/
  engineBase : Text
  deriving DecidableEq, Repr

/-- The classes of a project and where they were found. -/
structure ClassList where
  root : Text
  source : Text
  classes : List ListedClass
  deriving DecidableEq, Repr

namespace ClassList

/-- The classes of a registry. -/
def ofRegistry (root : Text) (r : Registry) : ClassList where
  root := root
  source := r.source
  classes := r.classes.map fun c =>
    ⟨c, if c.base.isEmpty then [] else (r.engineBase? c.base).getD []⟩

end ClassList

/-- The classes of the project that contains a directory. -/
def Survey.classList (s : Survey) (dir : Text) : Except SurveyError ClassList :=
  let absolute := s.files.absolute dir
  match s.projectRoot? absolute with
  | none =>
    .error (.file ⟨.notFound, absolute, some ("no " ++ Source.projectMarker ++ " found")⟩)
  | some root => ClassList.ofRegistry root <$> s.registry root

/-! ## Documents -/

open Document

def ListedClass.document (c : ListedClass) : Document :=
  ofFields [field "name" (.text c.declared.name), field "path" (.text c.declared.path),
    textField "base" c.declared.base, textField "engine_base" c.engineBase,
    flagField "autoload" c.declared.autoload]

def ClassList.document (l : ClassList) : Document :=
  ofFields [field "root" (.text l.root), field "source" (.text l.source),
    field "classes" (.list (l.classes.map ListedClass.document))]

end GodotSurvey
