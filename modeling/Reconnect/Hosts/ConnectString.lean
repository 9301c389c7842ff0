import Reconnect.Fault
import Reconnect.Text.Blank

/-!
# Connect strings

A connect string names the hosts of an ensemble, separated by commas, and after the first slash the
path under which the application lives: `a:2181,b:2181/app`. Blanks around a host and empty fields
do not count, and a host without a port has the default port.

## Results

* `ConnectString.not_mem_fields`: no field holds a separator.
-/

namespace Reconnect

/-- The hosts and the path that a connect string names. -/
structure ConnectString where
  hosts : List String
  /-- The path of the application, if it is not the root. -/
  chroot : Option String
deriving DecidableEq, Repr

namespace ConnectString

/-- What a host without a port gets. -/
def defaultPort : List Char := ":2181".toList

/-- The fields between the commas. -/
def fields : List Char → List (List Char)
  | [] => [[]]
  | c :: rest =>
    if c = ',' then [] :: fields rest
    else
      match fields rest with
      | [] => [[c]]
      | f :: more => (c :: f) :: more

/-- The text after the last closing bracket; all of it if there is none. -/
def afterBracket (host : List Char) : List Char := (host.reverse.takeWhile (· ≠ ']')).reverse

/-- Whether the host comes with a port: a colon stands after the last closing bracket. -/
def hasPort (host : List Char) : Bool := (afterBracket host).any (· = ':')

/-- The host with a port. -/
def withPort (host : List Char) : List Char := if hasPort host then host else host ++ defaultPort

/-- The hosts in the text before the first slash. -/
def hostsOf (text : List Char) : List (List Char) :=
  (((fields text).map Text.trim).filter (· ≠ [])).map withPort

/-- The path without the slashes at its end. -/
def pathOf (text : List Char) : List Char := (text.reverse.dropWhile (· = '/')).reverse

def parse (s : String) : Except HostFault ConnectString :=
  let text := s.toList
  let path := pathOf (text.dropWhile (· ≠ '/'))
  match hostsOf (text.takeWhile (· ≠ '/')) with
  | [] => .error .emptyMembership
  | hosts => .ok {
      hosts := hosts.map String.ofList
      chroot := if path = [] then none else some (String.ofList path) }

theorem not_mem_fields {text f : List Char} (h : f ∈ fields text) : ',' ∉ f := by
  induction text generalizing f with
  | nil => simp_all [fields]
  | cons c rest ih =>
    unfold fields at h
    split at h
    · rcases List.mem_cons.mp h with rfl | h
      · simp
      · exact ih h
    · rename_i hc
      split at h
      · simp only [List.mem_singleton] at h
        subst h
        simpa using Ne.symm hc
      · rename_i g more hfields
        rcases List.mem_cons.mp h with rfl | h
        · have := ih (f := g) (by simp [hfields])
          simpa [Ne.symm hc] using this
        · exact ih (by simp [hfields, h])

end ConnectString

end Reconnect
