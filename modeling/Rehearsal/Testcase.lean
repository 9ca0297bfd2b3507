import Rehearsal.Files.Store

/-!
# Test cases on disk

A test case is a pair of files: a script of input in one directory, named by the test's name, a
dot and a suffix, and the expected output in another, named by the test's name and `.expected`.
The test cases of a directory are listed in the order of their names, whatever the order of the
directory.
-/

namespace Rehearsal

/-- A script: the whole input and the whole expected output. -/
structure Testcase where
  name : String
  input : Bytes
  expected : Bytes
  deriving DecidableEq, Repr

/-- Where a test case lies. Nothing is read before it is loaded. -/
structure TestFile where
  name : String
  inputPath : Path
  expectedPath : Path
  deriving DecidableEq, Repr

/-- How test cases are recognised: the suffix of their inputs, and where expected outputs are. -/
structure Finder where
  suffix : String
  outputDir : Path
  deriving DecidableEq, Repr

/-- Why a test case could not be loaded. -/
inductive LoadFailure where
  | input (name : String) (e : FileError)
  | expected (name : String) (e : FileError)
  deriving DecidableEq, Repr

def LoadFailure.chain : LoadFailure → List String
  | .input name e => ("Failed to load input of testcase '" ++ name ++ "'") :: e.chain
  | .expected name e => ("Failed to load expected output of testcase '" ++ name ++ "'") :: e.chain

namespace Finder

/-- What the files of expected output end in. -/
def expectedExtension : String := "expected"

/-- A list without its end, if it ends so. -/
def dropEnd? {α : Type} [BEq α] (ending l : List α) : Option (List α) :=
  if ending.isSuffixOf l then some (l.take (l.length - ending.length)) else none

/-- The name of the test whose input has this file name: the part before the dot and the suffix,
which may not be empty. -/
def testName? (f : Finder) (fileName : Bytes) : Option String := do
  let chars ← Utf8.decode? fileName
  let name ← dropEnd? ('.' :: f.suffix.toList) chars
  if name.isEmpty then none else some (String.ofList name)

/-- The test case whose input is at a path. -/
def find? (f : Finder) (p : Path) : Option TestFile := do
  let name ← f.testName? (← p.fileName?)
  return {
    name
    inputPath := p
    expectedPath := f.outputDir.join (.ofString (name ++ "." ++ expectedExtension)) }

/-- The test cases among the entries of a directory, in the order of their names. -/
def ofEntries (f : Finder) (dir : Path) (entries : List (Bytes × Entry)) : List TestFile :=
  let files := entries.filter (·.2 != .dir)
  let found := files.filterMap fun e => f.find? (dir.join ⟨e.1⟩)
  found.mergeSort fun a b => !decide (b.name.toList < a.name.toList)

/-- The test cases in a directory. -/
def enumerate (f : Finder) (t : FileTree) (cwd : Place) (dir : Path) :
    Except FileError (List TestFile) :=
  (f.ofEntries dir) <$> t.list cwd dir

end Finder

/-- Read both files of a test case. -/
def TestFile.load (f : TestFile) (t : FileTree) (cwd : Place) : Except LoadFailure Testcase := do
  let input ← (t.read cwd f.inputPath).mapError (.input f.name)
  let expected ← (t.read cwd f.expectedPath).mapError (.expected f.name)
  return { name := f.name, input, expected }

end Rehearsal
