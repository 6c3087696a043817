import TableWrite.CommandLine

set_option autoImplicit false

namespace TableWrite
namespace CommandLine

section
variable {files others : Files}

theorem readFile_congr {file : String} (agree : files file = others file) :
    readFile files file = readFile others file := by
  rw [readFile, readFile, agree]

theorem loadDialect_congr {dialect : Option String}
    (agree : ∀ file ∈ dialect, files file = others file) :
    loadDialect files dialect = loadDialect others dialect := by
  cases dialect with
  | none => rfl
  | some file => rw [loadDialect, loadDialect, readFile_congr (agree file rfl)]

theorem loadRequest_congr {file : String} (agree : files file = others file) :
    loadRequest files file = loadRequest others file := by
  rw [loadRequest, loadRequest, readFile_congr agree]

/-- A run reads no file but those its arguments name. -/
theorem run_congr {args : List String}
    (agree : ∀ file ∈ namedFiles args, files file = others file) :
    run files args = run others args := by
  unfold run
  cases invoked : invocation? args with
  | none => rfl
  | some i =>
    have named : namedFiles args = i.table :: i.dialect.toList := by simp only [namedFiles, invoked]
    have dialect : loadDialect files i.dialect = loadDialect others i.dialect :=
      loadDialect_congr fun file given => agree file (by simp [named, Option.mem_def.1 given])
    have request : loadRequest files i.table = loadRequest others i.table :=
      loadRequest_congr (agree i.table (by simp [named]))
    simp only [output, dialect, request]

end

/-- The texts of the named files, read beforehand, are all that a run needs. -/
theorem run_ofTexts (files : Files) (args : List String) :
    run (.ofTexts ((namedFiles args).map fun file => (file, files file))) args =
      run files args :=
  run_congr fun _ named => files.ofTexts_map named

end CommandLine

namespace Files

/-- Where all names are bare, a path is looked up as it is written. -/
theorem ofDirectory_of_bare {files : Keyed String String} {path : String}
    (names : ∀ f ∈ files, IsBare f.1) (bare : IsBare path) :
    ofDirectory files path = Keyed.get? files path := by
  rw [ofDirectory, steps?_of_bare bare, Option.bind_eq_bind, Option.bind_some]
  induction files with
  | nil => rfl
  | cons f rest ih =>
    have head : steps? f.1 = some [f.1.toList] := steps?_of_bare (names f (by simp))
    have later := ih fun g mem => names g (by simp [mem])
    rw [Keyed.get?_cons, List.find?_cons, head]
    by_cases same : path = f.1
    · simp [same]
    · have others : (some [f.1.toList] == some [path.toList]) = false := by
        simpa [String.toList_inj] using Ne.symm same
      have missed : (path == f.1) = false := by simpa using same
      simpa only [others, missed, Bool.false_eq_true, if_false] using later

theorem steps?_dot_slash {path : String} (relative : path.toList.head? ≠ some '/') :
    steps? ("./" ++ path) = steps? path := by
  have front : Text.splitAt '/' ("./" ++ path).toList = ['.'] :: Text.splitAt '/' path.toList := by
    rw [String.toList_append]
    exact Text.splitAt_append_cons (s := ['.']) (by decide) path.toList
  unfold steps?
  rw [front]
  cases chars : path.toList with
  | nil => rfl
  | cons c rest =>
    have inside : c ≠ '/' := by simpa [chars] using relative
    obtain ⟨part, others, parts⟩ := List.exists_cons_of_ne_nil (Text.splitAt_ne_nil '/' rest)
    have whole : Text.splitAt '/' (c :: rest) = (c :: part) :: others := by
      simp [Text.splitAt, inside, parts]
    simp [whole]

/-- A path and the same path from the directory itself lead to the same file. -/
theorem ofDirectory_dot_slash (files : Keyed String String) {path : String}
    (relative : path.toList.head? ≠ some '/') :
    ofDirectory files ("./" ++ path) = ofDirectory files path := by
  rw [ofDirectory, ofDirectory, steps?_dot_slash relative]

end Files

/-- In a directory of bare names a run with bare names finds each file under its own. -/
theorem CommandLine.run_ofDirectory {files : Keyed String String} {args : List String}
    (names : ∀ f ∈ files, Files.IsBare f.1) (bare : ∀ file ∈ namedFiles args, Files.IsBare file) :
    run (.ofDirectory files) args = run (Keyed.get? files) args :=
  run_congr fun file named => Files.ofDirectory_of_bare names (bare file named)

end TableWrite
