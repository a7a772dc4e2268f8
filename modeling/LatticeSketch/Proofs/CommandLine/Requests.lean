/-
# LatticeSketch.Proofs.CommandLine.Requests -- the command lines for one lattice

A `Request` is what one run asks for about a lattice, and `Request.arguments` is its command
line.  With a name that is not taken for an option, and numbers that the options take, the
command line is read as the request (`ofArguments_arguments`).
-/
import LatticeSketch.CommandLine.Invocation
import LatticeSketch.Proofs.Decimal.Counting

namespace LatticeSketch.CommandLine

set_option autoImplicit false

/-- What a run asks for about one lattice. -/
inductive Request where
  | create (columns height : Nat) (evenShifted : Bool)
  | display
  | expand (sites : Nat)
  | reduce (sites : Nat)
deriving DecidableEq, Repr

namespace Request

/-- The command line of a request about the lattice called `name`. -/
def arguments (name : String) : Request → List String
  | create columns height evenShifted =>
      ["init", name, "--x", columns.repr, "--y", height.repr] ++
        if evenShifted then ["--first-null"] else []
  | display => ["show", name]
  | expand sites => ["expand", name, "-n", sites.repr]
  | reduce sites => ["reduce", name, "-n", sites.repr]

/-- The task that a request asks for. -/
def task (name : String) : Request → Task
  | create columns height evenShifted => .create name columns height evenShifted
  | display => .display name
  | expand sites => .expand name sites
  | reduce sites => .reduce name sites

/-- A request without options before the command. -/
def invocation (name : String) (request : Request) : Invocation where
  directory := "."
  settingsPath? := none
  latticeConstant? := none
  depth? := none
  unit := .nanometer
  task := request.task name

/-- The numbers of a request are such as the options take; a checkerboard has a row and a
column at least, and a reduction takes off no more characters than can be counted. -/
def Valid : Request → Prop
  | create columns height _ =>
      0 < columns ∧ columns < countBound ∧ 0 < height ∧ height < countBound
  | display => True
  | expand sites => sites < countBound
  | reduce sites => 2 * sites < countBound

end Request

theorem isOption_repr (n : Nat) : Grammar.isOption n.repr = false := by
  unfold Grammar.isOption
  split
  · rename_i shape
    have digit := Decimal.isDigit_of_mem_repr (n := n) (c := '-') (by simp [shape])
    exact absurd digit (by decide)
  · rfl

theorem readCount?_repr {n : Nat} (small : n < countBound) : readCount? n.repr = some n :=
  Decimal.readNat?_repr small

/-- The scan notes a name. -/
theorem scan_name {grammar : Grammar} {given next : Given} {name : String}
    (last : grammar.commands = []) (plain : Grammar.isOption name = false)
    (noted : grammar.addName given name = .ok next) (rest : List String) :
    grammar.scan given (name :: rest) = grammar.scan next rest := by
  have separate : name ≠ "--" := by
    rintro rfl
    exact absurd plain (by decide)
  rw [Grammar.scan]
  simp only [last, List.contains_nil, Bool.false_eq_true, if_false, separate, plain, noted]

/-- The scan notes a count behind the option that awaits it. -/
theorem scan_count {grammar : Grammar} {given : Given} {argument : String} {option : OptionSpec}
    {n : Nat} (last : grammar.commands = []) (separate : argument ≠ "--")
    (dashed : Grammar.isOption argument = true)
    (awaits : grammar.readOption given argument = .ok (given, some option))
    (counted : option.kind = .valued isCount) (small : n < countBound)
    (new : given.has option.key = false) (rest : List String) :
    grammar.scan given (argument :: n.repr :: rest) =
      grammar.scan { given with options := given.options ++ [(option.key, n.repr)] } rest := by
  have noted : option.withValue n.repr given =
      .ok { given with options := given.options ++ [(option.key, n.repr)] } := by
    have count : isCount n.repr = true := by
      rw [isCount, readCount?_repr small]
      rfl
    simp [OptionSpec.withValue, counted, count, Given.addOption, new]
  rw [Grammar.scan]
  simp only [last, List.contains_nil, Bool.false_eq_true, if_false, separate, dashed, if_true,
    awaits, isOption_repr, noted]

theorem count_resize {name : String} {sites : Nat} (few : sites < countBound) :
    Given.count ⟨[("n", sites.repr)], [name], none⟩ "n" 1 = sites := by
  have read : readCount? sites.repr = some sites := readCount?_repr few
  simp [Given.count, Given.value?, read]

section Reading

variable {name : String} (named : Grammar.isOption name = false)

include named

theorem readTask_create {columns height : Nat} (wide : columns < countBound)
    (high : height < countBound) (evenShifted : Bool) :
    readTask "init" ([name, "--x", columns.repr, "--y", height.repr] ++
        if evenShifted then ["--first-null"] else []) =
      .ok (.create name columns height evenShifted) := by
  have scanned : createGrammar.scan {} ([name, "--x", columns.repr, "--y", height.repr] ++
      if evenShifted then ["--first-null"] else []) =
      .ok ⟨[("x", columns.repr), ("y", height.repr)] ++
        if evenShifted then [("first-null", "")] else [], [name], none⟩ := by
    rw [List.cons_append, scan_name rfl named rfl]
    rw [List.cons_append, List.cons_append, scan_count rfl (by decide) (by decide) rfl rfl wide rfl]
    rw [List.cons_append, List.cons_append, scan_count rfl (by decide) (by decide) rfl rfl high rfl]
    cases evenShifted <;> rfl
  have read : createTask ⟨[("x", columns.repr), ("y", height.repr)] ++
      if evenShifted then [("first-null", "")] else [], [name], none⟩ =
      .create name columns height evenShifted := by
    have width : readCount? columns.repr = some columns := readCount?_repr wide
    have rows : readCount? height.repr = some height := readCount?_repr high
    cases evenShifted <;>
      simp [createTask, Given.count, Given.value?, Given.has, Given.name, List.lookup_cons, width,
        rows]
  simp only [readTask, Grammar.scanAll, scanned, List.isEmpty_cons, Bool.false_eq_true, if_false,
    Except.map, read]

theorem readTask_display : readTask "show" [name] = .ok (.display name) := by
  have scanned : displayGrammar.scan {} [name] = .ok ⟨[], [name], none⟩ := by
    rw [scan_name rfl named rfl]
    rfl
  simp only [readTask, Grammar.scanAll, scanned]
  rfl

theorem scanAll_resize {sites : Nat} (few : sites < countBound) :
    resizeGrammar.scanAll [name, "-n", sites.repr] = .ok ⟨[("n", sites.repr)], [name], none⟩ := by
  have scanned : resizeGrammar.scan {} [name, "-n", sites.repr] =
      .ok ⟨[("n", sites.repr)], [name], none⟩ := by
    rw [scan_name rfl named rfl, scan_count rfl (by decide) (by decide) rfl rfl few rfl]
    rfl
  simp only [Grammar.scanAll, scanned]
  rfl

end Reading

/-- A command in front takes all arguments behind it. -/
theorem ofArguments_of_readTask {command : String} {rest : List String} {task : Task}
    (known : mainGrammar.commands.contains command = true) (read : readTask command rest = .ok task) :
    Invocation.ofArguments (command :: rest) = .ok ⟨".", none, none, none, .nanometer, task⟩ := by
  have scanned : mainGrammar.scan {} (command :: rest) = .ok ⟨[], [], some (command, rest)⟩ := by
    rw [Grammar.scan, if_pos known]
  simp only [Invocation.ofArguments, scanned, read, Except.map]
  rfl

/-- The command line of a request is read as the request. -/
theorem ofArguments_arguments {name : String} (named : Grammar.isOption name = false)
    {request : Request} (valid : request.Valid) :
    Invocation.ofArguments (request.arguments name) = .ok (request.invocation name) := by
  cases request with
  | create columns height evenShifted =>
      obtain ⟨-, wide, -, high⟩ := valid
      exact ofArguments_of_readTask (by decide) (readTask_create named wide high evenShifted)
  | display => exact ofArguments_of_readTask (by decide) (readTask_display named)
  | expand sites =>
      have read : readTask "expand" [name, "-n", sites.repr] = .ok (.expand name sites) := by
        simp only [readTask, scanAll_resize named valid, Except.map, expandTask, count_resize valid]
        rfl
      exact ofArguments_of_readTask (by decide) read
  | reduce sites =>
      have few : sites < countBound :=
        Nat.lt_of_le_of_lt (Nat.le_mul_of_pos_left sites (by decide)) valid
      have read : readTask "reduce" [name, "-n", sites.repr] = .ok (.reduce name sites) := by
        simp only [readTask, scanAll_resize named few, Except.map, reduceTask, count_resize few]
        rfl
      exact ofArguments_of_readTask (by decide) read

end LatticeSketch.CommandLine
