import TokenLedger.Command.Run

/-! # Usage

What the user is told when a run does not get to its command.
-/
namespace TokenLedger

namespace CommandLine

def usage : String :=
  "Usage: token-cli [OPTIONS] <COMMAND>\n\n" ++
  "Commands:\n" ++
  "  verify <FILE>       Verify one proposed transaction (JSON file)\n" ++
  "  batch <FILE>        Verify a JSON array of proposed transactions\n" ++
  "  party <PUBLIC_KEY>  Derive a party handle from a hex-encoded public key\n\n" ++
  "Options:\n" ++
  "  -v, --verbose          Enable verbose output [env: TOKEN_CLI_VERBOSE=]\n" ++
  "  -f, --format <FORMAT>  Output format, table or json [env: TOKEN_CLI_FORMAT=]\n" ++
  "  -c, --config <CONFIG>  Configuration file path [env: TOKEN_CLI_CONFIG=]\n" ++
  "      --allow-reject     Exit successfully even when proposals are rejected\n" ++
  "  -h, --help             Print help\n" ++
  "  -V, --version          Print version"

def Refusal.message : Refusal → String
  | .unknownArgument => "error: unexpected argument\n\n" ++ usage
  | .unknownCommand => "error: unrecognized subcommand\n\n" ++ usage
  | .invalidValue => "error: invalid value\n\n" ++ usage
  | .repeatedOption => "error: an option cannot be used multiple times\n\n" ++ usage
  | .valueOfFlag => "error: unexpected value for a flag\n\n" ++ usage
  | .missingArgument => "error: a required argument was not provided\n\n" ++ usage
  | .missingCommand => "error: a subcommand is required\n\n" ++ usage
  | .nothingGiven | .help => usage
  | .version => "token-cli 0.1.0"

end CommandLine

def Refused.message : Refused → String
  | .line refusal => refusal.message
  | .settings failure => "Error: " ++ failure.message

end TokenLedger
