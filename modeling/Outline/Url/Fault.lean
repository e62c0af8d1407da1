import Outline.Text.Quoted

namespace Outline.Url

inductive Fault
  | tooLong
  | control (c : Char) (position : Nat)
  | port (text : String)
  | fourPartHost (host : String)
  | bracketedHost (host : String)
  | hostName (host : String)
  | codedHost (host : String)
  | pathAfterHost
  | doubleSlash
  | leadingColon
  deriving DecidableEq, Repr

def Fault.message : Fault → String
  | tooLong            => "URL too long"
  | control c position => "Invalid non-printable ASCII character in URL, " ++ Text.quoted c.toString ++
      s!" at position {position}."
  | port text          => "Invalid port: " ++ Text.quoted text
  | fourPartHost host  => "Invalid IPv4 address: " ++ Text.quoted host
  | bracketedHost host => "Invalid IPv6 address: " ++ Text.quoted host
  | hostName host      => "Invalid IDNA hostname: " ++ Text.quoted host
  | codedHost _        => "Invalid A-label"
  | pathAfterHost      => "For absolute URLs, path must be empty or begin with '/'"
  | doubleSlash        => "Relative URLs cannot have a path starting with '//'"
  | leadingColon       => "Relative URLs cannot have a path starting with ':'"

end Outline.Url
