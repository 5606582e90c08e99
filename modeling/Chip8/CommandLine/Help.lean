/-!
# Help

The usage of the program and the meaning of its options, for a terminal of
eighty columns.
-/
namespace Chip8
namespace CommandLine

def usageLines : List String := [
  "usage: chipvm [-h] [--frames FRAMES] [--seconds SECONDS] [--ips IPS]",
  "              [--wrap-sprites] [--seed SEED] [--progress]",
  "              [--screenshot SCREENSHOT] [--scale SCALE]",
  "              [--color-scheme COLOR_SCHEME]",
  "              [--log-level \x7bDEBUG,INFO,WARNING,ERROR,CRITICAL\x7d]",
  "              rom"]

def helpLines : List String := usageLines ++ [
  "",
  "Run a CHIP-8 program headless and report how the session ended",
  "",
  "positional arguments:",
  "  rom                   Path to the CHIP-8 program image",
  "",
  "options:",
  "  -h, --help            show this help message and exit",
  "  --frames FRAMES       Number of 60 Hz frames to emulate (default: 600)",
  "  --seconds SECONDS     Emulated duration in seconds, overrides --frames",
  "  --ips IPS             Instructions per second (default: 700)",
  "  --wrap-sprites        Wrap sprites around the screen edges instead of",
  "                        clipping them",
  "  --seed SEED           PRNG seed (default: wall clock)",
  "  --progress            Show a progress bar",
  "  --screenshot SCREENSHOT",
  "                        Save the final display to this image file",
  "  --scale SCALE         Screenshot upscaling factor (default: 8)",
  "  --color-scheme COLOR_SCHEME",
  "                        Screenshot color scheme (default: classic)",
  "  --log-level \x7bDEBUG,INFO,WARNING,ERROR,CRITICAL\x7d",
  "                        Console log level (default: INFO)"]

end CommandLine
end Chip8
