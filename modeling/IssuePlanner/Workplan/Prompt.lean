import IssuePlanner.Text.Lines

/-! What a model is asked to write: a new workplan, or a revised one. -/

namespace IssuePlanner.Workplan

def draftPrompt (title description code : String) : String :=
  Text.unlines
    ["You are an expert software developer tasked with creating a detailed workplan that will be published as a GitHub issue.",
     "",
     "# Task Title",
     title,
     "",
     "# Task Details",
     description,
     "",
     "# Codebase Context",
     code,
     "",
     "# Instructions",
     "Create a comprehensive implementation plan with the following structure:",
     "",
     "## Summary",
     "Provide a concise high-level summary of what needs to be done.",
     "",
     "## Implementation Steps",
     "Break down the implementation into clear, actionable steps. Each step should include:",
     "- What needs to be done",
     "- Which files need to be modified or created",
     "- Code snippets where helpful",
     "- Any potential challenges or considerations",
     "",
     "## Technical Details",
     "Include specific technical information such as:",
     "- API endpoints to create/modify",
     "- Database schema changes",
     "- Configuration updates",
     "- Dependencies to add",
     "",
     "## Testing Approach",
     "Describe how to test the implementation:",
     "- Unit tests to add",
     "- Integration tests needed",
     "- Manual testing steps",
     "",
     "## Files to Modify",
     "List all files that will need to be changed, organized by type of change (create, modify, delete).",
     "",
     "## Example Code Changes",
     "Provide concrete code examples for the most important changes.",
     "",
     "## References",
     "Include any relevant documentation, API references, or other resources.",
     "",
     "Include specific files to modify, new files to create, and detailed implementation steps.",
     "Respond directly with a clear, structured workplan with numbered steps, code snippets, and thorough explanations in Markdown. ",
     "Your response will be published directly to a GitHub issue without modification, so please include:",
     "- Detailed headers and Markdown sections",
     "- Code blocks with appropriate language syntax highlighting",
     "- Clear explanations that someone could follow step-by-step",
     "- Specific file paths and function names where applicable",
     "- Any configuration changes or dependencies needed",
     "",
     "The workplan should be comprehensive enough that a developer or AI assistant could implement it without additional context, and structured in a way that makes it easy for an LLM to quickly understand and work with the contained information.",
     "IMPORTANT: Respond *only* with the Markdown content for the GitHub issue body. Do *not* wrap your entire response in a single Markdown code block (```). Start directly with the '## Summary' heading.",
     ""]

def searchHint : String :=
  "Search the internet for latest package versions and describe how to use them."

def revisionPrompt (workplan instructions code : String) : String :=
  Text.unlines
    ["You are an expert software developer tasked with revising an existing workplan based on revision instructions.",
     "",
     "# Original Workplan",
     workplan,
     "",
     "# Revision Instructions",
     instructions,
     "",
     "# Codebase Context",
     code,
     "",
     "# Instructions",
     "Revise the \"Original Workplan\" based on the \"Revision Instructions\" and the provided \"Codebase Context\".",
     "Your output should be the complete, revised workplan in the same format as the original.",
     "",
     "The revised workplan should:",
     "1. Incorporate all changes requested in the revision instructions",
     "2. Maintain the same overall structure and formatting as the original",
     "3. Update any implementation details that are affected by the changes",
     "4. Ensure all sections remain comprehensive and implementable",
     "",
     "Respond directly with the complete revised workplan in Markdown format.",
     "IMPORTANT: Respond *only* with the Markdown content for the GitHub issue body. Do *not* wrap your entire response in a single Markdown code block (```). Start directly with the '## Summary' heading.",
     ""]

end IssuePlanner.Workplan
