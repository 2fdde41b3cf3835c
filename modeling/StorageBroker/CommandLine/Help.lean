import StorageBroker.CommandLine.Invocation

/-! # Help texts

What is shown when help or the version is asked for. -/

set_option autoImplicit false

namespace StorageBroker

namespace Help

def valueName (long : String) : String :=
  String.ofList (long.toList.map fun c => if c = '-' then '_' else c.toUpper)

def columns (rows : List (String × String)) : String :=
  let width := rows.foldl (fun width row => max width row.1.length) 0
  String.join (rows.map fun row =>
    "  " ++ row.1 ++ "".pushn ' ' (width - row.1.length) ++ "  " ++ row.2 ++ "\n")

def optionRow (environment : List (String × String)) (form : OptionForm) : String × String :=
  let source := match form.fallback? with
    | none => ""
    | some name => " [env: " ++ name ++ "=" ++ (environment.lookup name).getD "" ++ "]"
  ("-" ++ String.ofList [form.short] ++ ", --" ++ form.long ++ " <" ++ valueName form.long ++ ">",
    form.help ++ source)

def helpRow : String × String := ("-h, --help", "Print help")

def version : String := "reefd 0.1.0\n"

def aboutHelp : String := "Print this message or the help of the given subcommand(s)"

def overview (environment : List (String × String)) : String :=
  let commands := Subcommand.all.map fun command => (command.name, command.help)
  "reef job and storage coordination daemon\n\nUsage: reefd [OPTIONS] <COMMAND>\n\nCommands:\n" ++
    columns (commands ++
      [("help", aboutHelp)]) ++
    "\nOptions:\n" ++
    columns [optionRow environment Subcommand.configForm, helpRow, ("-V, --version", "Print version")]

def needed : Subcommand → String
  | .start | .controller => ""
  | .ping => " --server <SERVER>"
  | .query => " --server <SERVER> <SLURM_ID>"

def onCommand (environment : List (String × String)) (command : Subcommand) : String :=
  let operands := match command with
    | .query => "Arguments:\n" ++ columns [("<SLURM_ID>", "Batch scheduler job id")] ++ "\n"
    | _ => ""
  command.help ++ "\n\nUsage: reefd " ++ command.name ++ " [OPTIONS]" ++ needed command ++ "\n\n" ++
    operands ++ "Options:\n" ++
    columns ((Subcommand.configForm :: command.forms).map (optionRow environment) ++ [helpRow])

def onHelp : String :=
  aboutHelp ++ "\n\nUsage: reefd help [COMMAND]...\n\nArguments:\n" ++
    columns [("[COMMAND]...", "Print help for the subcommand(s)")]

def text (environment : List (String × String)) : HelpTopic → String
  | .overview => overview environment
  | .command command => onCommand environment command
  | .help => onHelp

end Help

end StorageBroker
