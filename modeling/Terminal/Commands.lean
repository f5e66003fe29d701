import Terminal.Commands.About
import Terminal.Commands.Contents
import Terminal.Commands.Directories
import Terminal.Commands.Ping
import Terminal.Commands.Variables
import Terminal.Registry

namespace Terminal.Commands

def builtins : List Command := [
  ⟨⟨"help", "List available commands or show help for one", some "help [command]"⟩, help⟩,
  ⟨⟨"man", "Show manual/help for a command", some "man <command>"⟩, man⟩,
  ⟨⟨"clear", "Clear the terminal screen", none⟩, clear⟩,
  ⟨⟨"echo", "Print text", some "echo [text...]"⟩, echo⟩,
  ⟨⟨"pwd", "Print working directory", none⟩, pwd⟩,
  ⟨⟨"whoami", "Show current user", none⟩, whoami⟩,
  ⟨⟨"uname", "Show system information", none⟩, uname⟩,
  ⟨⟨"date", "Print the current date and time", none⟩, date⟩,
  ⟨⟨"env", "Print environment variables", none⟩, env⟩,
  ⟨⟨"set", "Set an environment variable", some "set KEY=value"⟩, set⟩,
  ⟨⟨"theme", "Change or inspect terminal theme",
    some "theme [name] | theme list | theme current"⟩, theme⟩,
  ⟨⟨"open", "Open a URL in a new tab", some "open <url>"⟩, openLink⟩,
  ⟨⟨"about", "About this terminal", none⟩, about⟩,
  ⟨⟨"history", "Show command history", some historyUsage⟩, history⟩,
  ⟨⟨"uptime", "Show how long the session has been open", none⟩, uptime⟩,
  ⟨⟨"alias", "List or set command aliases (no-op demo)", some "alias [name=value]..."⟩, setAlias⟩,
  ⟨⟨"which", "Locate a command", some "which <command>"⟩, which⟩,
  ⟨⟨"ls", "List directory contents", some "ls [-l] [-a] [path]"⟩, ls⟩,
  ⟨⟨"cd", "Change directory", some "cd [path] | cd - | cd ~"⟩, cd⟩,
  ⟨⟨"cat", "Print file content", some "cat <file>"⟩, cat⟩,
  ⟨⟨"touch", "Create file or update timestamp", some "touch <file>"⟩, touch⟩,
  ⟨⟨"mkdir", "Create directory (the parent must exist unless -p is given)",
    some "mkdir [-p] <dir>"⟩, mkdir⟩,
  ⟨⟨"rm", "Remove files or directories", some "rm [-r] <path>"⟩, rm⟩,
  ⟨⟨"tree", "Show directory tree", some "tree [path] [depth]"⟩, tree⟩,
  ⟨⟨"mv", "Move/rename a file", some "mv <src> <dest>"⟩, mv⟩,
  ⟨⟨"cp", "Copy a file", some "cp <src> <dest>"⟩, cp⟩,
  ⟨⟨"head", "Output the first part of files", some "head [-n N] <file>"⟩, head⟩,
  ⟨⟨"tail", "Output the last part of files", some "tail [-n N] <file>"⟩, tail⟩,
  ⟨⟨"grep", "Search for patterns in files", some "grep [-i] [-n] <pattern> <file>"⟩, grep⟩,
  ⟨⟨"wc", "Word, line, byte counts", some "wc <file>"⟩, wc⟩,
  ⟨⟨"nano", "Simple inline editor",
    some "nano <file> (type \":wq\" on a new line to save and exit)"⟩, nano⟩,
  ⟨⟨"stat", "Show file metadata", some "stat <path>"⟩, stat⟩,
  ⟨⟨"ping", "Ping a host using HTTP request timings", some pingUsage⟩, ping⟩]

def secondNames : List (String × String × String) := [
  ("cls", "clear", "Clear the terminal screen (alias)"),
  ("printenv", "env", "Print environment variables (alias)"),
  ("export", "set", "Set an environment variable (alias)"),
  ("dir", "ls", "List directory contents (alias)")]

end Terminal.Commands

namespace Terminal.Registry

def addAll (cs : List Command) (r : Registry) : Except RegistryError Registry :=
  cs.foldlM (fun r c => r.add c) r

def addAliases (names : List (String × String × Option String)) (r : Registry) :
    Except RegistryError Registry :=
  names.foldlM (fun r e => r.addAlias e.1 e.2.1 e.2.2) r

def standard : Registry :=
  let second := Commands.secondNames.map fun e => (e.1, e.2.1, some e.2.2)
  match (empty.addAll Commands.builtins).bind (addAliases second) with
  | .ok r => r
  | .error _ => empty

def builtin : Registry := standard.freeze

end Terminal.Registry
