import Testbed.Ssh.Settings

/-!
# The argument vector as the ssh client reads it

The ssh client goes through its arguments one by one. Three options take the next argument as their
value, any other argument with a hyphen in front is an option of its own, the first argument that is
no option is the destination, and `--` ends the options: all that follows it is the command.

* `Letter`: the options that take a value.
* `Invocation`: what the client makes of its arguments, and `Invocation.read` how it does so.
* `Settings.meant`: what settings and a line are meant to be read as.

Results:
* `goOn_given`: options with their values are read as such, whatever the values are.
* `not_isOption_of_read`: what is read as the destination has no hyphen in front.

Headline: **`read_arguments_iff`**: the arguments are read as they are meant just if the destination
has no hyphen in front. Settings with such a destination are valid; `misread_host` are some.
-/

namespace Testbed.Ssh

/-- An option that takes the next argument as its value. -/
inductive Letter where
  | port
  | option
  | identity
  deriving Repr, DecidableEq

namespace Letter

/-- The option as an argument. -/
def flag : Letter → String
  | port => "-p"
  | option => "-o"
  | identity => "-i"

/-- The option that an argument is. -/
def of? (argument : String) : Option Letter :=
  [port, option, identity].find? (·.flag == argument)

theorem of?_flag (letter : Letter) : of? letter.flag = some letter := by
  cases letter <;> decide

theorem flag_ne (letter : Letter) : letter.flag ≠ "--" := by
  cases letter <;> decide

end Letter

/-- Whether an argument has a hyphen in front. -/
def isOption (argument : String) : Bool := Text.startsWith argument "-"

/-- What the ssh client makes of its arguments. -/
structure Invocation where
  ports : List String := []
  options : List String := []
  identities : List String := []
  /-- The options without a value. -/
  others : List String := []
  destination : Option String := none
  command : List String := []
  deriving Repr, DecidableEq

namespace Invocation

/-- The values that an option is given. -/
def give (i : Invocation) (values : List String) : Letter → Invocation
  | .port => { i with ports := i.ports ++ values }
  | .option => { i with options := i.options ++ values }
  | .identity => { i with identities := i.identities ++ values }

/-- Goes on reading; an option may be waiting for its value. Behind the destination, an argument
that is no option is the start of the command. -/
def goOn : Invocation → (waiting : Option Letter) → List String → Option Invocation
  | i, none, [] => some i
  | _, some _, [] => none
  | i, some letter, value :: arguments => goOn (i.give [value] letter) none arguments
  | i, none, argument :: arguments =>
    if argument = "--" then some { i with command := arguments }
    else match Letter.of? argument with
      | some letter => goOn i (some letter) arguments
      | none =>
        if isOption argument then
          goOn { i with others := i.others ++ [argument] } none arguments
        else match i.destination with
          | none => goOn { i with destination := some argument } none arguments
          | some _ => some { i with command := argument :: arguments }

/-- **What the ssh client makes of its arguments.** There is nothing it makes of them if the last is
an option that waits for its value. -/
def read (arguments : List String) : Option Invocation := goOn {} none arguments

/-! ## Options and their values -/

variable {i j : Invocation} {waiting : Option Letter} {arguments : List String}

theorem goOn_flag (letter : Letter) (value : String) :
    goOn i none (letter.flag :: value :: arguments) =
      goOn (i.give [value] letter) none arguments := by
  rw [goOn, if_neg letter.flag_ne, letter.of?_flag]
  rfl

theorem give_give (values more : List String) (letter : Letter) :
    (i.give values letter).give more letter = i.give (values ++ more) letter := by
  cases letter <;> simp [give]

/-- **Options with values are read as such**, whatever the values are. -/
theorem goOn_given (letter : Letter) (values : List String) :
    goOn i none (values.flatMap (fun value => [letter.flag, value]) ++ arguments) =
      goOn (i.give values letter) none arguments := by
  induction values generalizing i with
  | nil => cases letter <;> simp [give]
  | cons value values ih =>
    rw [List.flatMap_cons, List.append_assoc, List.cons_append, List.cons_append, List.nil_append,
      goOn_flag, ih, give_give, List.singleton_append]

/-! ## The destination -/

/-- What is read as the destination is no option. -/
theorem not_isOption_of_goOn (hi : ∀ d, i.destination = some d → isOption d = false)
    (h : goOn i waiting arguments = some j) : ∀ d, j.destination = some d → isOption d = false := by
  fun_induction goOn i waiting arguments with
  | case1 i | case4 i arguments | case8 i argument arguments => exact Option.some.inj h ▸ hi
  | case2 => cases h
  | case3 i letter value arguments ih =>
    refine ih (fun d hd => hi d ?_) h
    rw [← hd]
    cases letter <;> rfl
  | case5 i argument arguments _ letter _ ih => exact ih hi h
  | case6 i argument arguments _ _ _ ih => exact ih hi h
  | case7 i argument arguments _ _ hoption _ ih =>
    refine ih ?_ h
    rintro d ⟨⟩
    exact Bool.eq_false_iff.mpr hoption

theorem not_isOption_of_read (h : read arguments = some j) {destination : String}
    (hd : j.destination = some destination) : isOption destination = false :=
  not_isOption_of_goOn (by simp) h destination hd

theorem of?_eq_none {argument : String} (h : isOption argument = false) :
    argument ≠ "--" ∧ Letter.of? argument = none := by
  have hne : ∀ flag, isOption flag = true → flag ≠ argument := by
    rintro flag hflag rfl
    rw [h] at hflag
    cases hflag
  refine ⟨(hne "--" (by decide)).symm, ?_⟩
  rw [Letter.of?, List.find?_eq_none]
  intro letter _
  have hflag : isOption letter.flag = true := by cases letter <;> decide
  simpa using hne letter.flag hflag

/-- A destination that is no option, with a command behind it. -/
theorem goOn_destination {destination : String} (hi : i.destination = none)
    (h : isOption destination = false) (command : List String) :
    goOn i none (destination :: "--" :: command) =
      some { i with destination := some destination, command := command } := by
  obtain ⟨hend, hletter⟩ := of?_eq_none h
  rw [goOn, if_neg hend, hletter]
  simp only [h, Bool.false_eq_true, if_false, hi]
  rw [goOn, if_pos rfl]

end Invocation

/-! ## The arguments of some settings -/

namespace Settings

variable (s : Settings) (line : String)

/-- What the arguments are meant to be read as: the destination is the user, if there is one, at the
host. -/
def meant : Invocation where
  ports := [toString s.port.toNat]
  options := ["BatchMode=yes", "ConnectTimeout=" ++ toString s.connectTimeoutSecs] ++
    (if s.strictHostKeyChecking then [] else ["StrictHostKeyChecking=accept-new"]) ++
    s.extraOptions
  identities := s.identityFile.toList
  destination := some (if s.user.isEmpty then s.host else s.user ++ "@" ++ s.host)
  command := [line]

/-- The destination has a hyphen in front if the user has, or the host where there is no user. -/
theorem isOption_destination :
    isOption s.destination = isOption (if s.user.isEmpty then s.host else s.user) := by
  unfold destination
  split
  · rfl
  · rename_i huser
    obtain ⟨c, cs, hcs⟩ : ∃ c cs, s.user.toList = c :: cs := by
      refine List.exists_cons_of_ne_nil fun hnil => huser ?_
      rw [String.isEmpty_iff, ← String.toList_inj, hnil]
      rfl
    simp [isOption, Text.startsWith, hcs, List.isPrefixOf]

/-- **When the arguments are read as they are meant**: whatever the options, the identity file and
the line are, just if the destination has no hyphen in front; and that depends on the user, or on
the host where there is no user. -/
theorem read_arguments_iff :
    (Invocation.read (s.arguments line) = some (s.meant line) ↔ isOption s.destination = false) ∧
    isOption s.destination = isOption (if s.user.isEmpty then s.host else s.user) := by
  refine ⟨⟨fun h => Invocation.not_isOption_of_read h rfl, fun h => ?_⟩, s.isOption_destination⟩
  have harguments : s.arguments line =
      [toString s.port.toNat].flatMap (fun value => [Letter.port.flag, value]) ++
      (s.options.flatMap (fun value => [Letter.option.flag, value]) ++
      (s.identityFile.toList.flatMap (fun value => [Letter.identity.flag, value]) ++
      (s.extraOptions.flatMap (fun value => [Letter.option.flag, value]) ++
        [s.destination, "--", line]))) := by
    simp only [arguments, List.append_assoc]
    rfl
  rw [Invocation.read, harguments, Invocation.goOn_given, Invocation.goOn_given,
    Invocation.goOn_given, Invocation.goOn_given, Invocation.goOn_destination rfl h]
  simp [Invocation.give, meant, options, destination]

/-- A host with a hyphen in front, and no user: it is read as an option, and there is no
destination. -/
theorem misread_host :
    ({ host := "-oProxyCommand=reboot", user := "" } : Settings).fault? = none ∧
    Invocation.read (({ host := "-oProxyCommand=reboot", user := "" } : Settings).arguments "true") =
      some { ports := ["22"],
             options := ["BatchMode=yes", "ConnectTimeout=30", "StrictHostKeyChecking=accept-new"],
             others := ["-oProxyCommand=reboot"], command := ["true"] } ∧
    Invocation.read (({ host := "-oProxyCommand=reboot", user := "" } : Settings).arguments "true") ≠
      some (({ host := "-oProxyCommand=reboot", user := "" } : Settings).meant "true") := by
  refine ⟨by decide +kernel, by decide +kernel, by decide +kernel⟩

end Settings

end Testbed.Ssh
