import Mathlib.Data.List.Nodup
import Mathlib.Data.List.TakeWhile

/-!
# Command lines with options

`getopt_long` as it is documented, for an option string without a leading
`+`, `-` or `:`, so that operands may stand between the options, and without
optional arguments and synonyms.  The module also gives a grammar of command
lines and shows that the function reads what the grammar describes.
-/

namespace Getopt

/-- An argument of the program, without its terminating NUL. -/
abbrev Word := List UInt8

/-- `struct option` with a null `flag`. -/
structure LongOption where
  name : Word
  hasArg : Bool
  val : UInt8
  deriving DecidableEq

/-- The value `getopt_long` returns, with `optarg`. -/
structure Returned where
  val : UInt8
  optarg : Option Word
  deriving DecidableEq

/-- The value for an option that is not in the tables, is ambiguous, lacks
its argument or has one it does not take. -/
def unknown : Returned := ⟨63, none⟩

/-- Whether a character of the option string takes an argument; `none` if it
is not there. -/
def shortOption : (optstring : Word) → UInt8 → Option Bool
  | [], _ => none
  | [other], char => if other = char then some false else none
  | other :: next :: rest, char =>
      if next = 58 then
        if other = char then some true else shortOption rest char
      else if other = char then some false
      else shortOption (next :: rest) char

/-- The entry a name selects: the one with this name, or else the only one
whose name it begins. -/
def longOption (table : List LongOption) (name : Word) :
    Option LongOption :=
  match table.find? (·.name = name) with
  | some entry => some entry
  | none =>
      match table.filter fun entry => name <+: entry.name with
      | [entry] => some entry
      | _ => none

/-- The characters behind one hyphen: the options they are, and the last one
if its argument is the next word. -/
def readCluster (optstring : Word) : Word → List Returned × Option UInt8
  | [] => ([], none)
  | char :: rest =>
      match shortOption optstring char with
      | none =>
          let (returned, pending) := readCluster optstring rest
          (unknown :: returned, pending)
      | some false =>
          let (returned, pending) := readCluster optstring rest
          (⟨char, none⟩ :: returned, pending)
      | some true =>
          if rest = [] then ([], some char)
          else ([⟨char, some rest⟩], none)

/-- The text behind two hyphens. -/
def readLong (table : List LongOption) (text : Word) :
    List Returned × Option UInt8 :=
  let name := text.takeWhile (· ≠ 61)
  let value := text.drop name.length
  match longOption table name with
  | none => ([unknown], none)
  | some entry =>
      if value = [] then
        if entry.hasArg then ([], some entry.val)
        else ([⟨entry.val, none⟩], none)
      else if entry.hasArg then ([⟨entry.val, some value.tail⟩], none)
      else ([unknown], none)

/-- One word, other than `--`: an operand has no options. -/
def readWord (optstring : Word) (table : List LongOption) :
    Word → List Returned × Option UInt8
  | 45 :: 45 :: text => readLong table text
  | 45 :: chars => readCluster optstring chars
  | _ => ([], none)

/-- All that `getopt_long` returns, in order, before it returns `-1`. -/
def getoptLong (optstring : Word) (table : List LongOption) :
    List Word → List Returned
  | [] => []
  | word :: rest =>
      if word = [45, 45] then []
      else
        match readWord optstring table word with
        | (returned, none) => returned ++ getoptLong optstring table rest
        | (returned, some val) =>
            match rest with
            | [] => returned ++ [unknown]
            | arg :: later =>
                returned ++
                  ⟨val, some arg⟩ :: getoptLong optstring table later

variable {optstring : Word} {table : List LongOption}

/-! ## The grammar -/

/-- A flag given by its character. -/
def flag (char : UInt8) : Returned := ⟨char, none⟩

/-- The name selects the entry: it is its name, or no entry has this name
and the entry is the only one whose name it begins. -/
structure Names
    (table : List LongOption) (name : Word) (entry : LongOption) : Prop where
  listed : entry ∈ table
  noValue : 61 ∉ name
  selects : entry.name = name ∨
    (∀ other ∈ table, other.name ≠ name) ∧ name <+: entry.name ∧
      ∀ other ∈ table, name <+: other.name → other = entry

/-- The ways to write options, and an operand between them: with one hyphen,
any number of flags, and behind them an option with an argument, in the same
word or in the next; with two hyphens, a name, and its argument behind `=` or
in the next word. -/
inductive Spells (optstring : Word) (table : List LongOption) :
    List Word → List Returned → Prop where
  | operand (word : Word) (plain : word.head? ≠ some 45 ∨ word = [45]) :
      Spells optstring table [word] []
  | flags (chars : Word) (nonempty : chars ≠ [])
      (each : ∀ char ∈ chars, shortOption optstring char = some false) :
      Spells optstring table [45 :: chars] (chars.map flag)
  | attached (chars : Word) (char : UInt8) (arg : Word)
      (each : ∀ char ∈ chars, shortOption optstring char = some false)
      (takes : shortOption optstring char = some true)
      (nonempty : arg ≠ []) :
      Spells optstring table [45 :: (chars ++ char :: arg)]
        (chars.map flag ++ [⟨char, some arg⟩])
  | separate (chars : Word) (char : UInt8) (arg : Word)
      (each : ∀ char ∈ chars, shortOption optstring char = some false)
      (takes : shortOption optstring char = some true) :
      Spells optstring table [45 :: (chars ++ [char]), arg]
        (chars.map flag ++ [⟨char, some arg⟩])
  | long (name : Word) (entry : LongOption) (names : Names table name entry)
      (nonempty : name ≠ []) (noArg : entry.hasArg = false) :
      Spells optstring table [45 :: 45 :: name] [flag entry.val]
  | longAttached (name : Word) (entry : LongOption) (arg : Word)
      (names : Names table name entry) (takes : entry.hasArg = true) :
      Spells optstring table [45 :: 45 :: (name ++ 61 :: arg)]
        [⟨entry.val, some arg⟩]
  | longSeparate (name : Word) (entry : LongOption) (arg : Word)
      (names : Names table name entry) (nonempty : name ≠ [])
      (takes : entry.hasArg = true) :
      Spells optstring table [45 :: 45 :: name, arg]
        [⟨entry.val, some arg⟩]

/-- A command line: written options and operands, up to its end or to `--`,
behind which all words are operands. -/
inductive CommandLine (optstring : Word) (table : List LongOption) :
    List Word → List Returned → Prop where
  | nil : CommandLine optstring table [] []
  | terminator (operands : List Word) :
      CommandLine optstring table ([45, 45] :: operands) []
  | cons {words rest : List Word} {returned more : List Returned}
      (spells : Spells optstring table words returned)
      (line : CommandLine optstring table rest more) :
      CommandLine optstring table (words ++ rest) (returned ++ more)

/-- What the option tables of a program satisfy: no flag is a hyphen, names
are distinct, and none is empty or holds `=`. -/
structure WellFormed (optstring : Word) (table : List LongOption) :
    Prop where
  hyphen : shortOption optstring 45 = none
  distinct : (table.map LongOption.name).Nodup
  noValue : ∀ entry ∈ table, 61 ∉ entry.name

/-! ## Reading a word -/

theorem readWord_long (text : Word) :
    readWord optstring table (45 :: 45 :: text) = readLong table text :=
  rfl

theorem readWord_short
    {chars : Word} (single : chars.head? ≠ some 45) :
    readWord optstring table (45 :: chars) =
      readCluster optstring chars := by
  cases chars with
  | nil => rfl
  | cons char rest =>
      rw [readWord]
      intro text same
      exact single (by rw [(List.cons.inj same).1]; rfl)

theorem readWord_operand
    {word : Word} (plain : word.head? ≠ some 45) :
    readWord optstring table word = ([], none) := by
  cases word with
  | nil => rfl
  | cons char rest =>
      have notHyphen : char ≠ 45 := by simpa using plain
      rw [readWord]
      · intro text same
        exact notHyphen (List.cons.inj same).1
      · intro chars same
        exact notHyphen (List.cons.inj same).1

/-- Flags come out one by one. -/
private theorem readCluster_append
    {chars : Word}
    (each : ∀ char ∈ chars, shortOption optstring char = some false)
    (rest : Word) :
    readCluster optstring (chars ++ rest) =
      (chars.map flag ++ (readCluster optstring rest).1,
        (readCluster optstring rest).2) := by
  induction chars with
  | nil => rfl
  | cons char chars inductionHypothesis =>
      have first := each char (by simp)
      have tail :=
        inductionHypothesis fun other member => each other (by simp [member])
      rw [List.cons_append, readCluster, first, tail]
      rfl

/-- The only entry of a table that satisfies a test. -/
private theorem filter_eq_singleton
    {entries : List LongOption} (nodup : entries.Nodup)
    {test : LongOption → Bool} {entry : LongOption}
    (listed : entry ∈ entries) (passes : test entry = true)
    (only : ∀ other ∈ entries, test other = true → other = entry) :
    entries.filter test = [entry] := by
  apply List.perm_singleton.mp
  rw [List.perm_ext_iff_of_nodup (nodup.filter test)
    (List.nodup_singleton entry)]
  intro other
  rw [List.mem_filter, List.mem_singleton]
  constructor
  · intro chosen
    exact only other chosen.1 chosen.2
  · intro same
    rw [same]
    exact ⟨listed, passes⟩

/-- The names of a well-formed table that select an entry. -/
theorem longOption_eq_some_iff
    (wellFormed : WellFormed optstring table) {name : Word}
    (noValue : 61 ∉ name) {entry : LongOption} :
    longOption table name = some entry ↔ Names table name entry := by
  have sameName (first second : LongOption) (one : first ∈ table)
      (two : second ∈ table) (same : first.name = second.name) :
      first = second :=
    List.inj_on_of_nodup_map wellFormed.distinct one two same
  rw [longOption]
  cases found : table.find? (·.name = name) with
  | some exact_ =>
      have listed := List.mem_of_find?_eq_some found
      have named : exact_.name = name := by
        simpa using List.find?_some found
      constructor
      · rintro ⟨⟩
        exact ⟨listed, noValue, .inl named⟩
      · intro names
        rcases names.selects with same | ⟨absent, -⟩
        · rw [sameName exact_ entry listed names.listed
            (named.trans same.symm)]
        · exact (absent exact_ listed named).elim
  | none =>
      have absent : ∀ other ∈ table, other.name ≠ name := by
        intro other member
        simpa using List.find?_eq_none.mp found other member
      dsimp only
      constructor
      · intro chosen
        split at chosen
        · rename_i only filtered
          cases chosen
          have selected (other : LongOption) :
              other ∈ table ∧ name <+: other.name ↔ other = entry := by
            rw [← List.mem_singleton, ← filtered, List.mem_filter,
              decide_eq_true_eq]
          have own := (selected entry).mpr rfl
          exact ⟨own.1, noValue, .inr ⟨absent, own.2,
            fun other member begins =>
              (selected other).mp ⟨member, begins⟩⟩⟩
        · cases chosen
      · intro names
        rcases names.selects with same | ⟨-, begins, only⟩
        · exact (absent entry names.listed same).elim
        · have filtered :
              (table.filter fun other => name <+: other.name) = [entry] :=
            filter_eq_singleton (List.Nodup.of_map _ wellFormed.distinct)
              names.listed (decide_eq_true begins)
              fun other member chosen =>
                only other member (of_decide_eq_true chosen)
          rw [filtered]

/-- The clusters without an unknown option, with what is read of them. -/
inductive Cluster (optstring : Word) :
    Word → List Returned × Option UInt8 → Prop where
  | flags (chars : Word)
      (each : ∀ char ∈ chars, shortOption optstring char = some false) :
      Cluster optstring chars (chars.map flag, none)
  | attached (chars : Word) (char : UInt8) (arg : Word)
      (each : ∀ char ∈ chars, shortOption optstring char = some false)
      (takes : shortOption optstring char = some true)
      (nonempty : arg ≠ []) :
      Cluster optstring (chars ++ char :: arg)
        (chars.map flag ++ [⟨char, some arg⟩], none)
  | pending (chars : Word) (char : UInt8)
      (each : ∀ char ∈ chars, shortOption optstring char = some false)
      (takes : shortOption optstring char = some true) :
      Cluster optstring (chars ++ [char]) (chars.map flag, some char)

/-- A further flag in front. -/
private theorem Cluster.cons
    {char : UInt8} {chars : Word} {result : List Returned × Option UInt8}
    (isFlag : shortOption optstring char = some false)
    (cluster : Cluster optstring chars result) :
    Cluster optstring (char :: chars) (flag char :: result.1, result.2) := by
  have extend {others : Word}
      (each : ∀ other ∈ others, shortOption optstring other = some false) :
      ∀ other ∈ char :: others,
        shortOption optstring other = some false :=
    List.forall_mem_cons.mpr ⟨isFlag, each⟩
  cases cluster with
  | flags chars each => exact .flags (char :: chars) (extend each)
  | attached chars last arg each takes nonempty =>
      exact .attached (char :: chars) last arg (extend each) takes nonempty
  | pending chars last each takes =>
      exact .pending (char :: chars) last (extend each) takes

theorem Cluster.read
    {chars : Word} {result : List Returned × Option UInt8}
    (cluster : Cluster optstring chars result) :
    readCluster optstring chars = result := by
  cases cluster with
  | flags chars each =>
      have all := readCluster_append each []
      rw [List.append_nil] at all
      rw [all]
      simp [readCluster]
  | attached chars char arg each takes nonempty =>
      rw [readCluster_append each _, readCluster, takes]
      dsimp only
      rw [if_neg nonempty]
  | pending chars char each takes =>
      rw [readCluster_append each _, readCluster, takes]
      simp

theorem cluster_of_known
    {chars : Word} (known : unknown ∉ (readCluster optstring chars).1) :
    Cluster optstring chars (readCluster optstring chars) := by
  induction chars with
  | nil => exact .flags [] (by simp)
  | cons char rest inductionHypothesis =>
      cases kind : shortOption optstring char with
      | none =>
          exact (known (by simp [readCluster, kind])).elim
      | some takes =>
          cases takes with
          | false =>
              have read : readCluster optstring (char :: rest) =
                  (flag char :: (readCluster optstring rest).1,
                    (readCluster optstring rest).2) := by
                rw [readCluster, kind]
                rfl
              rw [read] at known ⊢
              apply Cluster.cons kind
              apply inductionHypothesis
              intro member
              exact known (List.mem_cons_of_mem _ member)
          | true =>
              rw [readCluster, kind]
              dsimp only
              by_cases last : rest = []
              · rw [if_pos last, last]
                exact .pending [] char (by simp) kind
              · rw [if_neg last]
                exact .attached [] char rest (by simp) kind last

private theorem takeWhile_name
    {name : Word} (noValue : 61 ∉ name) (rest : Word) :
    (name ++ rest).takeWhile (· ≠ 61) =
      name ++ rest.takeWhile (· ≠ 61) := by
  apply List.takeWhile_append_of_pos
  intro char member
  apply decide_eq_true
  intro same
  exact noValue (same ▸ member)

private theorem readLong_name
    {name : Word} (noValue : 61 ∉ name) :
    readLong table name =
      match longOption table name with
      | none => ([unknown], none)
      | some entry =>
          if entry.hasArg then ([], some entry.val)
          else ([⟨entry.val, none⟩], none) := by
  have whole := takeWhile_name noValue []
  rw [List.append_nil, List.takeWhile_nil, List.append_nil] at whole
  rw [readLong, whole]
  simp

private theorem readLong_value
    {name : Word} (noValue : 61 ∉ name) (arg : Word) :
    readLong table (name ++ 61 :: arg) =
      match longOption table name with
      | none => ([unknown], none)
      | some entry =>
          if entry.hasArg then ([⟨entry.val, some arg⟩], none)
          else ([unknown], none) := by
  have split := takeWhile_name noValue (61 :: arg)
  rw [List.takeWhile_cons_of_neg (by simp), List.append_nil] at split
  rw [readLong, split]
  simp

/-- The text behind two hyphens is a name, alone or with a value. -/
private theorem long_cases (text : Word) :
    61 ∉ text ∨ ∃ name arg, 61 ∉ name ∧ text = name ++ 61 :: arg := by
  by_cases value : 61 ∈ text
  · rcases List.eq_append_cons_of_mem value with
      ⟨name, arg, split, noValue⟩
    exact .inr ⟨name, arg, noValue, split⟩
  · exact .inl value

/-! ## Reading what the grammar describes -/

/-- The words that are read without the next one, or with it, and what is
returned for them. -/
inductive Reads (optstring : Word) (table : List LongOption) :
    List Word → List Returned → Prop where
  | alone (word : Word) (returned : List Returned)
      (notEnd : word ≠ [45, 45])
      (read : readWord optstring table word = (returned, none)) :
      Reads optstring table [word] returned
  | withNext (word arg : Word) (returned : List Returned) (val : UInt8)
      (notEnd : word ≠ [45, 45])
      (read : readWord optstring table word = (returned, some val)) :
      Reads optstring table [word, arg] (returned ++ [⟨val, some arg⟩])

theorem Reads.getoptLong
    {words rest : List Word} {returned : List Returned}
    (reads : Reads optstring table words returned) :
    getoptLong optstring table (words ++ rest) =
      returned ++ getoptLong optstring table rest := by
  cases reads with
  | alone word returned notEnd read =>
      rw [List.cons_append, List.nil_append, Getopt.getoptLong,
        if_neg notEnd, read]
  | withNext word arg returned val notEnd read =>
      rw [List.cons_append, List.cons_append, List.nil_append,
        Getopt.getoptLong, if_neg notEnd, read]
      simp

/-- A cluster begins with no hyphen, as a hyphen is no option. -/
private theorem head_flags
    (wellFormed : WellFormed optstring table) {chars : Word}
    (each : ∀ char ∈ chars, shortOption optstring char = some false)
    {char : UInt8} (takes : shortOption optstring char = some true)
    (rest : Word) :
    (chars ++ char :: rest).head? ≠ some 45 := by
  intro hyphen
  cases chars with
  | nil =>
      have same : char = 45 := by simpa using hyphen
      rw [same, wellFormed.hyphen] at takes
      cases takes
  | cons first more =>
      have same : first = 45 := by simpa using hyphen
      have isFlag := each first (by simp)
      rw [same, wellFormed.hyphen] at isFlag
      cases isFlag

private theorem short_ne_end
    {chars : Word} (single : chars.head? ≠ some 45) :
    (45 :: chars : Word) ≠ [45, 45] := by
  intro same
  apply single
  rw [(List.cons.inj same).2]
  rfl

theorem Spells.reads
    (wellFormed : WellFormed optstring table)
    {words : List Word} {returned : List Returned}
    (spells : Spells optstring table words returned) :
    Reads optstring table words returned := by
  cases spells with
  | operand word plain =>
      apply Reads.alone
      · rintro rfl
        simp at plain
      · rcases plain with plain | hyphen
        · exact readWord_operand plain
        · rw [hyphen]
          rfl
  | flags chars nonempty each =>
      have single : chars.head? ≠ some 45 := by
        intro hyphen
        have isFlag := each 45 (List.mem_of_mem_head? hyphen)
        rw [wellFormed.hyphen] at isFlag
        cases isFlag
      apply Reads.alone _ _ (short_ne_end single)
      rw [readWord_short single]
      exact (Cluster.flags chars each).read
  | attached chars char arg each takes nonempty =>
      have single := head_flags wellFormed each takes arg
      apply Reads.alone _ _ (short_ne_end single)
      rw [readWord_short single]
      exact (Cluster.attached chars char arg each takes nonempty).read
  | separate chars char arg each takes =>
      have single := head_flags wellFormed each takes []
      apply Reads.withNext _ _ _ _ (short_ne_end single)
      rw [readWord_short single]
      exact (Cluster.pending chars char each takes).read
  | long name entry names nonempty noArg =>
      apply Reads.alone
      · simpa using nonempty
      · rw [readWord_long, readLong_name names.noValue,
          (longOption_eq_some_iff wellFormed names.noValue).mpr names]
        simp [noArg, flag]
  | longAttached name entry arg names takes =>
      apply Reads.alone
      · simp
      · rw [readWord_long, readLong_value names.noValue,
          (longOption_eq_some_iff wellFormed names.noValue).mpr names]
        simp [takes]
  | longSeparate name entry arg names nonempty takes =>
      apply Reads.withNext _ _ [] entry.val
      · simpa using nonempty
      · rw [readWord_long, readLong_name names.noValue,
          (longOption_eq_some_iff wellFormed names.noValue).mpr names]
        simp [takes]

private theorem spells_of_readLong
    (wellFormed : WellFormed optstring table) {text : Word}
    (nonempty : text ≠ [])
    (known : unknown ∉ (readLong table text).1) :
    (∃ returned, readLong table text = (returned, none) ∧
      Spells optstring table [45 :: 45 :: text] returned) ∨
    ∃ val, readLong table text = ([], some val) ∧
      ∀ arg, Spells optstring table [45 :: 45 :: text, arg]
        [⟨val, some arg⟩] := by
  rcases long_cases text with noValue | ⟨name, arg, noValue, split⟩
  · rw [readLong_name noValue] at known ⊢
    cases selected : longOption table text with
    | none => exact (known (by simp [selected])).elim
    | some entry =>
        have names :=
          (longOption_eq_some_iff wellFormed noValue).mp selected
        cases takes : entry.hasArg with
        | false =>
            refine .inl ⟨[⟨entry.val, none⟩], by simp [takes], ?_⟩
            exact .long text entry names nonempty takes
        | true =>
            refine .inr ⟨entry.val, by simp [takes], ?_⟩
            intro arg
            exact .longSeparate text entry arg names nonempty takes
  · rw [split, readLong_value noValue arg] at known ⊢
    cases selected : longOption table name with
    | none => exact (known (by simp [selected])).elim
    | some entry =>
        have names :=
          (longOption_eq_some_iff wellFormed noValue).mp selected
        cases takes : entry.hasArg with
        | false => exact (known (by simp [selected, takes])).elim
        | true =>
            refine .inl ⟨[⟨entry.val, some arg⟩], by simp [takes], ?_⟩
            exact .longAttached name entry arg names takes

private theorem spells_of_readCluster
    {chars : Word} (nonempty : chars ≠ [])
    (known : unknown ∉ (readCluster optstring chars).1) :
    (∃ returned, readCluster optstring chars = (returned, none) ∧
      Spells optstring table [45 :: chars] returned) ∨
    ∃ returned val,
      readCluster optstring chars = (returned, some val) ∧
      ∀ arg, Spells optstring table [45 :: chars, arg]
        (returned ++ [⟨val, some arg⟩]) := by
  have cluster := cluster_of_known known
  generalize readCluster optstring chars = result at cluster
  cases cluster with
  | flags chars each =>
      exact .inl ⟨_, rfl, .flags chars nonempty each⟩
  | attached chars char arg each takes argument =>
      exact .inl ⟨_, rfl, .attached chars char arg each takes argument⟩
  | pending chars char each takes =>
      refine .inr ⟨_, _, rfl, ?_⟩
      intro arg
      exact .separate chars char arg each takes

/-- A word without an unknown option is written as the grammar says. -/
theorem spells_of_readWord
    (wellFormed : WellFormed optstring table) {word : Word}
    (notEnd : word ≠ [45, 45])
    (known : unknown ∉ (readWord optstring table word).1) :
    (∃ returned, readWord optstring table word = (returned, none) ∧
      Spells optstring table [word] returned) ∨
    ∃ returned val,
      readWord optstring table word = (returned, some val) ∧
      ∀ arg, Spells optstring table [word, arg]
        (returned ++ [⟨val, some arg⟩]) := by
  by_cases plain : word.head? = some 45
  · rcases List.head?_eq_some_iff.mp plain with ⟨chars, rfl⟩
    by_cases double : chars.head? = some 45
    · rcases List.head?_eq_some_iff.mp double with ⟨text, rfl⟩
      have nonempty : text ≠ [] := by
        intro empty
        exact notEnd (by rw [empty])
      rw [readWord_long] at known ⊢
      rcases spells_of_readLong wellFormed nonempty known with
        alone | ⟨val, read, spells⟩
      · exact .inl alone
      · exact .inr ⟨[], val, read, spells⟩
    · by_cases hyphen : chars = []
      · rw [hyphen]
        exact .inl ⟨[], rfl, .operand [45] (.inr rfl)⟩
      · rw [readWord_short double] at known ⊢
        exact spells_of_readCluster hyphen known
  · exact .inl ⟨[], readWord_operand plain, .operand word (.inl plain)⟩

/-- Without an unknown option, `getopt_long` returns the given options
exactly if the grammar reads the command line as them. -/
theorem getoptLong_eq_iff
    (wellFormed : WellFormed optstring table)
    {words : List Word} {returned : List Returned}
    (known : unknown ∉ returned) :
    getoptLong optstring table words = returned ↔
      CommandLine optstring table words returned := by
  constructor
  · intro read
    subst read
    fun_induction getoptLong optstring table words with
    | case1 => exact .nil
    | case2 operands => exact .terminator operands
    | case3 word rest notEnd returned read inductionHypothesis =>
        rw [List.mem_append, not_or] at known
        have written := spells_of_readWord wellFormed notEnd
          (by rw [read]; exact known.1)
        rw [read] at written
        rcases written with ⟨_, same, spells⟩ | ⟨_, _, different, -⟩
        · cases same
          exact .cons spells (inductionHypothesis known.2)
        · cases different
    | case4 word notEnd returned val read =>
        exact (known (by simp)).elim
    | case5 word notEnd returned val read arg later inductionHypothesis =>
        rw [List.mem_append, List.mem_cons, not_or, not_or] at known
        have written := spells_of_readWord wellFormed notEnd
          (by rw [read]; exact known.1)
        rw [read] at written
        rcases written with ⟨_, different, -⟩ | ⟨_, _, same, spells⟩
        · cases different
        · cases same
          have line :=
            CommandLine.cons (spells arg) (inductionHypothesis known.2.2)
          rwa [List.append_assoc] at line
  · intro line
    clear known
    induction line with
    | nil => rfl
    | terminator operands => rw [getoptLong, if_pos rfl]
    | cons spells line inductionHypothesis =>
        rw [(spells.reads wellFormed).getoptLong, inductionHypothesis]

end Getopt
