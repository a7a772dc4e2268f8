/-
# LatticeSketch.Proofs.Scene.Decoding -- the commands of a session, known from its script

A script writes names, keys and texts as they are, and a text may be a script itself.  The
commands can be told from it all the same (`commands_eq_of_script_eq`) if no name and no key
holds a double quote, no name a line feed and no text both kinds of quotes: the quote in front
of a text is one that the text does not hold, a value without quotes ends at its bracket, and
no command begins like the property lines of the command before it.

Each part of a script is cut off the text that follows it: two equal texts that begin with
such a part begin with the same one, and what follows is equal again.
-/
import LatticeSketch.Proofs.Decimal.Scientific
import LatticeSketch.Scene.Script

namespace LatticeSketch

set_option autoImplicit false

/-! ## What can be written as it is -/

/-- A name that can stand between double quotes and in a comment line. -/
def PlainName (name : String) : Prop :=
  '"' ∉ name.toList ∧ '\n' ∉ name.toList

/-- A text that can stand between quotes of one kind. -/
def Value.Quotable : Value → Prop
  | .text content => ¬('"' ∈ content.toList ∧ '\'' ∈ content.toList)
  | _ => True

/-- An object whose name, keys and values can be written as they are. -/
structure SceneObject.Writable (object : SceneObject) : Prop where
  name : PlainName object.name
  keys : ∀ property ∈ object.properties, '"' ∉ property.1.toList
  values : ∀ property ∈ object.properties, property.2.Quotable

def Command.Writable : Command → Prop
  | .delete name => PlainName name
  | .add object => object.Writable

/-- A session whose commands, and the names of whose live objects, can be written as they
are. -/
structure Session.Writable (session : Session) : Prop where
  commands : ∀ command ∈ session.commands, command.Writable
  objects : ∀ object ∈ session.objects, PlainName object.name

/-! ## Values -/

namespace Value

/-- A flag is spelt with letters that no number has. -/
theorem flag_literal_ne {v : Value}
    (numeral : ∀ c ∈ v.literal.toList, Decimal.isNumeral c = true) (b : Bool) :
    v.literal ≠ (flag b).literal := by
  intro same
  rw [same] at numeral
  cases b with
  | false => exact absurd (numeral 'l' (by decide)) (by decide)
  | true => exact absurd (numeral 't' (by decide)) (by decide)

theorem isNumeral_number (x : Float) :
    ∀ c ∈ (number x).literal.toList, Decimal.isNumeral c = true :=
  fun _ member => Decimal.isNumeral_of_mem_scientific member

theorem isNumeral_integer (i : Int) :
    ∀ c ∈ (integer i).literal.toList, Decimal.isNumeral c = true :=
  fun _ member => Decimal.isNumeral_of_mem_intRepr member

/-- A whole number is written without a letter. -/
theorem number_literal_ne (x : Float) (i : Int) : (number x).literal ≠ (integer i).literal := by
  intro same
  have digits : ∀ c ∈ (Decimal.scientific x).toList, c.isDigit = true ∨ c = '-' := by
    intro c member
    have text : Decimal.scientific x = i.repr := same
    exact Decimal.isDigit_or_sign_of_mem_intRepr (text ▸ member)
  rcases Decimal.letter_mem_scientific x with letter | letter | letter
  · exact absurd (digits _ letter) (by decide)
  · exact absurd (digits _ letter) (by decide)
  · exact absurd (digits _ letter) (by decide)

/-- Values without quotes are known from their literals. -/
theorem eq_of_literal_eq {v w : Value} (bare : v.text? = none) (bare' : w.text? = none)
    (same : v.literal = w.literal) : v = w := by
  cases v with
  | number x =>
      cases w with
      | number y => rw [Decimal.scientific_injective same]
      | integer j => exact absurd same (number_literal_ne x j)
      | flag b => exact absurd same (flag_literal_ne (isNumeral_number x) b)
      | text t => cases bare'
  | integer i =>
      cases w with
      | number y => exact absurd same.symm (number_literal_ne y i)
      | integer j => rw [Decimal.eq_of_intRepr_eq same]
      | flag b => exact absurd same (flag_literal_ne (isNumeral_integer i) b)
      | text t => cases bare'
  | flag a =>
      cases w with
      | number y => exact absurd same.symm (flag_literal_ne (isNumeral_number y) a)
      | integer j => exact absurd same.symm (flag_literal_ne (isNumeral_integer j) a)
      | flag b =>
          cases a <;> cases b <;> first | rfl | exact absurd same (by decide)
      | text t => cases bare'
  | text t => cases bare

/-- The characters of values without quotes: those of numbers and of the names of flags. -/
def isBare (c : Char) : Bool :=
  Decimal.isNumeral c || ['t', 'r', 'u', 'l', 's'].contains c

theorem not_mem_literal {v : Value} (bare : v.text? = none) {c : Char} (mark : isBare c = false) :
    c ∉ v.literal.toList := by
  intro member
  have chars : isBare c = true := by
    cases v with
    | number x => rw [isBare, isNumeral_number x c member, Bool.true_or]
    | integer i => rw [isBare, isNumeral_integer i c member, Bool.true_or]
    | flag b => cases b <;> exact List.all_eq_true.1 (by decide) c member
    | text content => cases bare
  rw [mark] at chars
  cases chars

/-- A text stands between two quotes of a kind that it does not hold. -/
theorem literal_text {content : String} (quotable : (text content).Quotable) :
    ∃ quote, (isBare quote = false ∧ quote ≠ ')') ∧ quote ∉ content.toList ∧
      (text content).literal.toList = quote :: (content.toList ++ [quote]) := by
  by_cases double : '"' ∈ content.toList
  · have single : '\'' ∉ content.toList := fun single => quotable ⟨double, single⟩
    exact ⟨'\'', by decide, single, by simp [literal, quotedText, double]⟩
  · exact ⟨'"', by decide, double, by simp [literal, quotedText, double]⟩

/-- A value without quotes does not begin with one. -/
theorem literal_append_ne {v : Value} (bare : v.text? = none) {quote : Char}
    (mark : isBare quote = false ∧ quote ≠ ')') (rest rest' : List Char) :
    v.literal.toList ++ ')' :: rest ≠ quote :: rest' := by
  have absent := not_mem_literal bare mark.1
  intro same
  cases literal : v.literal.toList with
  | nil =>
      rw [literal] at same
      exact mark.2 (List.cons.inj same).1.symm
  | cons c more =>
      rw [literal] at same absent
      exact absent (by simp [(List.cons.inj same).1])

theorem bare_or_text (v : Value) : v.text? = none ∨ ∃ content, v = .text content := by
  cases v with
  | text content => exact .inr ⟨content, rfl⟩
  | number | integer | flag => exact .inl rfl

/-- A value is known from a text that begins with its literal and a bracket. -/
theorem literal_append_inj {v w : Value} (quotable : v.Quotable) (quotable' : w.Quotable)
    {rest rest' : List Char}
    (same : v.literal.toList ++ ')' :: rest = w.literal.toList ++ ')' :: rest') :
    v = w ∧ rest = rest' := by
  rcases v.bare_or_text with bare | ⟨content, rfl⟩
  · rcases w.bare_or_text with bare' | ⟨content', rfl⟩
    · obtain ⟨literals, rests⟩ := (Text.append_mark_inj (not_mem_literal bare (by decide))
        (not_mem_literal bare' (by decide))).1 same
      exact ⟨eq_of_literal_eq bare bare' (String.toList_inj.1 literals), rests⟩
    · obtain ⟨quote, mark, -, shape⟩ := literal_text quotable'
      rw [shape] at same
      exact absurd same (literal_append_ne bare mark _ _)
  · obtain ⟨quote, mark, absent, shape⟩ := literal_text quotable
    rcases w.bare_or_text with bare' | ⟨content', rfl⟩
    · rw [shape] at same
      exact absurd same.symm (literal_append_ne bare' mark _ _)
    · obtain ⟨quote', -, absent', shape'⟩ := literal_text quotable'
      rw [shape, shape', List.cons_append, List.cons_append, List.append_assoc,
        List.append_assoc] at same
      obtain ⟨rfl, texts⟩ := List.cons.inj same
      obtain ⟨contents, rests⟩ := (Text.append_mark_inj absent absent').1 texts
      rw [String.toList_inj.1 contents, (List.cons.inj rests).2]
      exact ⟨rfl, rfl⟩

end Value

/-! ## Property lines -/

namespace SceneObject

/-- The lines that set properties. -/
def propertyLines (properties : List (String × Value)) : List Char :=
  properties.flatMap fun property => (Directive.setLine property.1 property.2.literal).toList

theorem propertyLines_cons (property : String × Value) (more : List (String × Value))
    (rest : List Char) :
    propertyLines (property :: more) ++ rest =
      "set(\"".toList ++ (property.1.toList ++ '"' :: (", ".toList ++ (property.2.literal.toList ++
        ')' :: (";\n".toList ++ (propertyLines more ++ rest))))) := by
  simp [propertyLines, Directive.setLine]

/-- The text behind the lines of a command: it does not go on with a property. -/
def PropertiesOver (rest : List Char) : Prop :=
  ¬"set(\"".toList <+: rest

/-- Properties are known from a text that begins with their lines and goes on with another
command. -/
theorem propertyLines_append_inj {first second : List (String × Value)}
    (keys : ∀ property ∈ first, '"' ∉ property.1.toList)
    (values : ∀ property ∈ first, property.2.Quotable)
    (keys' : ∀ property ∈ second, '"' ∉ property.1.toList)
    (values' : ∀ property ∈ second, property.2.Quotable) {rest rest' : List Char}
    (ended : PropertiesOver rest) (ended' : PropertiesOver rest')
    (same : propertyLines first ++ rest = propertyLines second ++ rest') :
    first = second ∧ rest = rest' := by
  induction first generalizing second with
  | nil =>
      cases second with
      | nil => exact ⟨rfl, same⟩
      | cons property more =>
          rw [propertyLines_cons] at same
          exact absurd ⟨_, same.symm⟩ ended
  | cons property front ih =>
      cases second with
      | nil =>
          rw [propertyLines_cons] at same
          exact absurd ⟨_, same⟩ ended'
      | cons property' more =>
          rw [List.forall_mem_cons] at keys values keys' values'
          rw [propertyLines_cons, propertyLines_cons] at same
          obtain ⟨key, atValue⟩ :=
            (Text.append_mark_inj keys.1 keys'.1).1 (List.append_cancel_left same)
          obtain ⟨value, atEnd⟩ :=
            Value.literal_append_inj values.1 values'.1 (List.append_cancel_left atValue)
          obtain ⟨rfl, rests⟩ := ih keys.2 values.2 keys'.2 values'.2 (List.append_cancel_left atEnd)
          rw [Prod.ext (String.toList_inj.1 key) value]
          exact ⟨rfl, rests⟩

end SceneObject

/-! ## Commands -/

theorem ObjectKind.command_injective {kind kind' : ObjectKind}
    (same : kind.command = kind'.command) : kind = kind' := by
  cases kind <;> cases kind' <;> first | rfl | exact absurd same (by decide)

/-- The command that creates an object begins with an `a` and holds no semicolon. -/
theorem ObjectKind.command_shape (kind : ObjectKind) :
    (∃ more, kind.command.toList = 'a' :: more) ∧ ';' ∉ kind.command.toList := by
  cases kind <;> exact ⟨⟨_, rfl⟩, by decide⟩

namespace Command

theorem script_delete (name : String) (rest : List Char) :
    (delete name).script.toList ++ rest =
      "select(\"".toList ++ (name.toList ++ '"' :: (");\ndelete;\n".toList ++ rest)) := by
  simp [script]

theorem script_add (object : SceneObject) (rest : List Char) :
    (add object).script.toList ++ rest =
      object.kind.command.toList ++ ';' :: ("\nset(\"name\", \"".toList ++ (object.name.toList ++
        '"' :: (");\n".toList ++ (SceneObject.propertyLines object.properties ++ rest)))) := by
  simp [script, Directive.setText, Directive.setLine, SceneObject.propertyLines, List.flatMap_map]

/-- A command is known from a text that begins with its lines and goes on with another
command. -/
theorem script_append_inj {first second : Command} (writable : first.Writable)
    (writable' : second.Writable) {rest rest' : List Char}
    (ended : SceneObject.PropertiesOver rest) (ended' : SceneObject.PropertiesOver rest')
    (same : first.script.toList ++ rest = second.script.toList ++ rest') :
    first = second ∧ rest = rest' := by
  -- a deletion begins with an `s`
  have differ : ∀ (name : String) (object : SceneObject) (rest rest' : List Char),
      (delete name).script.toList ++ rest ≠ (add object).script.toList ++ rest' := by
    intro name object rest rest' same
    obtain ⟨⟨more, shape⟩, -⟩ := object.kind.command_shape
    rw [script_delete, script_add, shape] at same
    exact absurd (List.cons.inj same).1 (by decide)
  cases first with
  | delete name =>
      cases second with
      | delete name' =>
          rw [script_delete, script_delete] at same
          obtain ⟨names, atEnd⟩ :=
            (Text.append_mark_inj writable.1 writable'.1).1 (List.append_cancel_left same)
          rw [String.toList_inj.1 names]
          exact ⟨rfl, List.append_cancel_left atEnd⟩
      | add object => exact absurd same (differ _ _ _ _)
  | add object =>
      cases second with
      | delete name => exact absurd same.symm (differ _ _ _ _)
      | add object' =>
          rw [script_add, script_add] at same
          obtain ⟨kind, atName⟩ := (Text.append_mark_inj object.kind.command_shape.2
            object'.kind.command_shape.2).1 same
          obtain ⟨name, atProperties⟩ := (Text.append_mark_inj writable.name.1
            writable'.name.1).1 (List.append_cancel_left atName)
          obtain ⟨properties, rests⟩ := SceneObject.propertyLines_append_inj writable.keys
            writable.values writable'.keys writable'.values ended ended'
            (List.append_cancel_left atProperties)
          have objects : object = object' := by
            cases object
            cases object'
            rw [SceneObject.mk.injEq]
            exact ⟨String.toList_inj.1 name,
              ObjectKind.command_injective (String.toList_inj.1 kind), properties⟩
          rw [objects]
          exact ⟨rfl, rests⟩

/-- The text of commands, one after the other. -/
def scripts (commands : List Command) : List Char :=
  commands.flatMap fun command => command.script.toList

theorem scripts_cons (command : Command) (more : List Command) :
    scripts (command :: more) = command.script.toList ++ scripts more := rfl

/-- No command begins like a property line. -/
theorem propertiesOver_scripts (commands : List Command) :
    SceneObject.PropertiesOver (scripts commands) := by
  intro line
  cases commands with
  | nil => exact absurd line (by decide)
  | cons command more =>
      rw [scripts_cons] at line
      cases command with
      | delete name =>
          rw [script_delete] at line
          simp [List.cons_prefix_cons] at line
      | add object =>
          obtain ⟨⟨rest, shape⟩, -⟩ := object.kind.command_shape
          rw [script_add, shape] at line
          simp [List.cons_prefix_cons] at line

theorem script_ne_nil (command : Command) : command.script.toList ≠ [] := by
  cases command with
  | delete name => simp [script]
  | add object => simp [script]

/-- Commands are known from their text. -/
theorem scripts_injective {first second : List Command} (writable : ∀ c ∈ first, c.Writable)
    (writable' : ∀ c ∈ second, c.Writable) (same : scripts first = scripts second) :
    first = second := by
  induction first generalizing second with
  | nil =>
      cases second with
      | nil => rfl
      | cons command more =>
          rw [scripts_cons] at same
          exact absurd (List.append_eq_nil_iff.1 same.symm).1 command.script_ne_nil
  | cons command front ih =>
      cases second with
      | nil =>
          rw [scripts_cons] at same
          exact absurd (List.append_eq_nil_iff.1 same).1 command.script_ne_nil
      | cons command' more =>
          rw [List.forall_mem_cons] at writable writable'
          rw [scripts_cons, scripts_cons] at same
          obtain ⟨rfl, rests⟩ := script_append_inj writable.1 writable'.1
            (propertiesOver_scripts front) (propertiesOver_scripts more) same
          rw [ih writable.2 writable'.2 rests]

end Command

/-! ## Sessions -/

namespace Session

/-- A writable command keeps a session writable. -/
theorem Writable.perform {session : Session} (writable : session.Writable) {command : Command}
    (plain : command.Writable) : (session.perform command).Writable := by
  have commands : ∀ c ∈ session.commands ++ [command], c.Writable := by
    intro c member
    rcases List.mem_append.1 member with earlier | last
    · exact writable.commands c earlier
    · rwa [List.mem_singleton.1 last]
  cases command with
  | delete name =>
      refine ⟨commands, ?_⟩
      intro object live
      exact writable.objects object (List.mem_filter.1 live).1
  | add object =>
      refine ⟨commands, ?_⟩
      intro other live
      rcases List.mem_append.1 live with earlier | last
      · exact writable.objects other earlier
      · rw [List.mem_singleton.1 last]
        exact plain.name

/-- A session that was given writable commands only is writable. -/
theorem writable_of_commands {commands : List Command} (plain : ∀ c ∈ commands, c.Writable) :
    (commands.foldl Session.perform fresh).Writable := by
  suffices run : ∀ session : Session, session.Writable →
      (commands.foldl Session.perform session).Writable from run fresh ⟨nofun, nofun⟩
  induction commands with
  | nil => exact fun session writable => writable
  | cons command more ih =>
      rw [List.forall_mem_cons] at plain
      intro session writable
      exact ih plain.2 _ (writable.perform plain.1)

/-- The names of the crystals fill one line. -/
theorem feed_not_mem_intercalate {names : List String}
    (plain : ∀ name ∈ names, '\n' ∉ name.toList) :
    '\n' ∉ (String.intercalate ", " names).toList := by
  rw [String.toList_intercalate]
  intro member
  rcases Text.mem_of_mem_intercalate member with inComma | ⟨_, listed, inName⟩
  · exact absurd inComma (by decide)
  · obtain ⟨name, given, rfl⟩ := List.mem_map.1 listed
    exact plain name given inName

theorem Writable.crystals {session : Session} (writable : session.Writable) :
    '\n' ∉ (String.intercalate ", " session.crystalNames).toList := by
  apply feed_not_mem_intercalate
  intro name member
  obtain ⟨object, live, rfl⟩ := List.mem_map.1 member
  exact (writable.objects object (List.mem_filter.1 live).1).2

/-- The commands stand behind a head in which the line of crystals alone is the session's. -/
theorem script_eq (title time : String) :
    ∃ before behind : List Char, ∀ session : Session,
      (session.script title time).toList =
        before ++ ((String.intercalate ", " session.crystalNames).toList ++
          '\n' :: (behind ++ Command.scripts session.commands)) := by
  refine ⟨(rule ++ "# Lumerical FDTD scene - auto-generated from crystal lattice models\n" ++
    "# " ++ title ++ "\n" ++ "#\n" ++ "# Generated: " ++ time ++ "\n" ++ "# Crystals: ").toList,
    (rule ++ "\nswitchtolayout;\n").toList, ?_⟩
  intro session
  simp [script, scriptHead, Command.scripts, List.flatMap_map]

/-- Two sessions with one script, under the same title and time, were given the same
commands. -/
theorem commands_eq_of_script_eq {first second : Session} {title time : String}
    (writable : first.Writable) (writable' : second.Writable)
    (same : first.script title time = second.script title time) :
    first.commands = second.commands := by
  obtain ⟨before, behind, shape⟩ := script_eq title time
  have texts := congrArg String.toList same
  rw [shape, shape] at texts
  obtain ⟨-, rests⟩ :=
    (Text.append_mark_inj writable.crystals writable'.crystals).1 (List.append_cancel_left texts)
  exact Command.scripts_injective writable.commands writable'.commands
    (List.append_cancel_left rests)

/-- The script of a crystal looks like commands and is told from them by its quotes. -/
theorem commands_eq_of_script_eq_nested :
    let crystal : SceneObject :=
      ⟨"pc", .structureGroup,
        [("x", .number 1e-6), ("script", .text "deleteall;\n\naddcircle;\nset(\"x\", 0e0);\n")]⟩
    let first := fresh.upsert crystal
    let second := [Command.delete "pc", .add crystal].foldl perform fresh
    first.Writable ∧ second.Writable ∧ first.script "scene" "now" = second.script "scene" "now" ∧
      first.commands = second.commands := by
  intro crystal first second
  have plain : ∀ c ∈ [Command.delete "pc", .add crystal], c.Writable := by
    rw [List.forall_mem_cons, List.forall_mem_singleton]
    exact ⟨⟨by decide, by decide⟩,
      { name := ⟨by decide, by decide⟩
        keys := by decide
        values := by simp [crystal, Value.Quotable] }⟩
  have writable : second.Writable := writable_of_commands plain
  have same : first.script "scene" "now" = second.script "scene" "now" := rfl
  exact ⟨writable, writable, same, commands_eq_of_script_eq writable writable same⟩

/-- A name with quotes can hold the end of its own command and the beginning of another. -/
example :
    (Command.delete "a\");\ndelete;\nselect(\"b").script =
      (Command.delete "a").script ++ (Command.delete "b").script := by
  decide

end Session

end LatticeSketch
