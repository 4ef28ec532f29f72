import IssuePlanner.Text.Lines

/-! What a model is asked when it has to judge a change. -/

namespace IssuePlanner.Judgement

def prompt (workplan diff code base head : String) : String :=
  Text.unlines
    ["You are an expert software reviewer tasked with judging whether a code diff successfully implements a given workplan.",
     "",
     "# Original Workplan",
     workplan,
     "",
     "# Code Diff",
     diff,
     "",
     "# Codebase Context",
     code,
     "",
     "# Task",
     "Review the code diff against the original workplan and provide a detailed judgement. Consider:",
     "",
     "1. **Completeness**: Does the diff implement all the steps and requirements outlined in the workplan?",
     "2. **Correctness**: Is the implementation technically correct and does it follow best practices?",
     "3. **Missing Elements**: What parts of the workplan, if any, were not addressed?",
     "4. **Additional Changes**: Were there any changes made that weren't part of the original workplan?",
     "5. **Quality**: Comment on code quality, testing, documentation, and any potential issues.",
     "",
     "The diff represents changes between '" ++ base ++ "' and '" ++ head ++ "'.",
     "",
     "Structure your response with these clear sections:",
     "",
     "## Judgement Summary",
     "Provide a clear verdict: APPROVED, NEEDS_WORK, or INCOMPLETE, followed by a brief explanation.",
     "",
     "## Implementation Analysis",
     "Detail what was successfully implemented from the workplan.",
     "",
     "## Missing or Incomplete Items",
     "List specific items from the workplan that were not addressed or were only partially implemented.",
     "",
     "## Code Quality Assessment",
     "Evaluate the quality of the implementation including:",
     "- Code style and consistency",
     "- Error handling",
     "- Test coverage",
     "- Documentation",
     "",
     "## Recommendations",
     "Provide specific, actionable recommendations for improvement.",
     "",
     "## References",
     "Extract any URLs mentioned in the workplan or that would be helpful for understanding the implementation and list them here. This ensures important links are preserved.",
     "",
     "IMPORTANT: Respond *only* with the Markdown content for the judgement. Do *not* wrap your entire response in a single Markdown code block (```). Start directly with the '## Judgement Summary' heading.",
     ""]

end IssuePlanner.Judgement
