/-!
# Linters

The linters that are supported: what each is called, which language it is for,
whether it needs a built project, which files it looks at unless told
otherwise, and what it is good for.
-/

namespace Lintscope

/-- The language that a linter is meant for. -/
inductive Language where
  | generic
  | python
  | cpp
  | yaml
  | rst
  deriving DecidableEq, Repr

namespace Language

/-- All languages. -/
def all : List Language := [generic, python, cpp, yaml, rst]

/-- The word for a language. -/
def name : Language → String
  | generic => "generic"
  | python => "python"
  | cpp => "cpp"
  | yaml => "yaml"
  | rst => "rst"

/-- The language with a given name. -/
def ofName? (name : String) : Option Language := all.find? (·.name = name)

end Language

/-- What a linter works on. -/
inductive Style where
  /-- Sources only. -/
  | static
  /-- A project that has been built. -/
  | dynamic
  deriving DecidableEq, Repr

namespace Style

/-- Both styles. -/
def all : List Style := [static, dynamic]

/-- The word for a style. -/
def name : Style → String
  | static => "static"
  | dynamic => "dynamic"

/-- The style with a given name. -/
def ofName? (name : String) : Option Style := all.find? (·.name = name)

end Style

/-- A supported linter. -/
inductive Linter where
  | flake8
  | pycodestyle
  | pydocstyle
  | pylint
  | black
  | autopep8
  | imports
  | yamllint
  | cppcheck
  | cpplint
  | doxygen
  | rstLint
  | whitespace
  | header
  | custom
  deriving DecidableEq, Repr

namespace Linter

/-- All linters, in the order in which they are listed. -/
def all : List Linter :=
  [flake8, pycodestyle, pydocstyle, pylint, black, autopep8, imports, yamllint, cppcheck, cpplint,
    doxygen, rstLint, whitespace, header, custom]

/-- The name of a linter. -/
def id : Linter → String
  | flake8 => "flake8"
  | pycodestyle => "pycodestyle"
  | pydocstyle => "pydocstyle"
  | pylint => "pylint"
  | black => "black"
  | autopep8 => "autopep8"
  | imports => "import"
  | yamllint => "yamllint"
  | cppcheck => "cppcheck"
  | cpplint => "cpplint"
  | doxygen => "doxygen"
  | rstLint => "rst-lint"
  | whitespace => "whitespace"
  | header => "header"
  | custom => "custom"

/-- The linter with a given name. -/
def ofId? (id : String) : Option Linter := all.find? (·.id = id)

/-- The language a linter is for, unless its options say otherwise. -/
def language : Linter → Language
  | flake8 | pycodestyle | pydocstyle | pylint | black | autopep8 | imports => .python
  | yamllint => .yaml
  | cppcheck | cpplint | doxygen => .cpp
  | rstLint => .rst
  | whitespace | header | custom => .generic

/-- What a linter works on, unless its options say otherwise. -/
def style (_ : Linter) : Style := .static

/-- The rules for Python files, scripts among them. -/
def pythonRules : List String := ["+ *.py", "+ *.pyx", "+ *.pxd", "+ bin/*"]

/-- The rules for C and C++ files. -/
def cppRules : List String := ["+ *.h", "+ *.h.in", "+ *.cpp", "+ *.c", "+ *.hpp", "+ *.cc"]

/-- The rules for the files of a linter, unless its settings give others. -/
def rules : Linter → List String
  | flake8 | pycodestyle | pydocstyle | pylint => pythonRules
  | black | autopep8 => ["+ *.py", "+ bin/*"]
  | imports => ["- test_*.py", "- */test_*.py", "+ *.py", "+ *.pyx"]
  | yamllint => ["+ *.yml", "+ *.yaml"]
  | cppcheck | cpplint => cppRules
  | doxygen => ["+ *.h", "+ *.hpp"]
  | rstLint => ["+ *.rst"]
  | whitespace | custom => ["+ *"]
  | header => ["+ *.py", "+ *.pyx", "+ *.pxd"]

/-- What a linter is good for. -/
def description : Linter → String
  | flake8 => "Python style and error checks (flake8)"
  | pycodestyle => "PEP 8 style checks (pycodestyle)"
  | pydocstyle => "Docstring conventions (pydocstyle)"
  | pylint => "Python static analysis (pylint, JSON output)"
  | black => "Code black would reformat (check only)"
  | autopep8 => "Code autopep8 would reformat (check only)"
  | imports => "Absolute imports of a package from inside itself"
  | yamllint => "YAML checks (yamllint)"
  | cppcheck => "C/C++ static analysis (cppcheck)"
  | cpplint => "Google C++ style checks (cpplint)"
  | doxygen => "Undocumented C/C++ declarations (doxygen)"
  | rstLint => "reStructuredText checks (restructuredtext-lint)"
  | whitespace => "Tabs, trailing whitespace, CR characters and file endings"
  | header => "Checks that files start with the project's comment header"
  | custom => "Any command whose output a regex can parse"

theorem mem_all (l : Linter) : l ∈ all := by cases l <;> decide

theorem ofId?_id (l : Linter) : ofId? l.id = some l := by cases l <;> decide

end Linter

end Lintscope
