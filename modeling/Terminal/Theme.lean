namespace Terminal

inductive ThemeName where
  | classic
  | monokai
  | dracula
  deriving DecidableEq, Repr

structure Theme where
  name : ThemeName
  background : String
  foreground : String
  accent : String
  subtle : String
  cursor : String
  deriving DecidableEq, Repr

namespace ThemeName

def label : ThemeName → String
  | classic => "classic"
  | monokai => "monokai"
  | dracula => "dracula"

def all : List ThemeName := [classic, monokai, dracula]

def ofLabel? (label : String) : Option ThemeName := all.find? fun n => n.label == label

theorem ofLabel?_label (n : ThemeName) : ofLabel? n.label = some n := by cases n <;> decide

def next : ThemeName → ThemeName
  | classic => monokai
  | monokai => dracula
  | dracula => classic

def palette : ThemeName → Theme
  | classic => ⟨classic, "#0b0c0e", "#e6edf3", "#58d68d", "#8b949e", "#2ecc71"⟩
  | monokai => ⟨monokai, "#1f201c", "#f8f8f2", "#a6e22e", "#8a8a7e", "#a6e22e"⟩
  | dracula => ⟨dracula, "#1e1f29", "#f8f8f2", "#50fa7b", "#9aa3c0", "#50fa7b"⟩

def ofLabel (label : Option String) : ThemeName := (label.bind ofLabel?).getD classic

end ThemeName

end Terminal
